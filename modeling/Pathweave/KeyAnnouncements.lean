import Pathweave.KeyBinding
import Pathweave.Weights

/-!
# Announcing learned keys

A handshake that finds its key missing from the registry inserts it, and the caller
of the handshake reports the key with an event that starts a flood. `try_connect` and
`handle_incoming` report the session's own pair at once. `try_send` leaves the report
to `Router::send`, which makes it only after an acknowledgement and under the peer it
was called for: the report can be false, and it can be missing.
-/

namespace Pathweave

open ByteStrings GuardedRuns Weights

set_option autoImplicit false

variable {prims : Primitives}

/-- The sends a `KeyLearned` event starts. -/
def floodKeyAnnouncement (entropy : Octets 8) (peers : PeerTable) (localPeer learnedPeer : PeerId)
    (learnedKey : PublicKey) : List RouterSend :=
  spawnRelayToNeighbors (encodeKeyAnnouncement learnedPeer learnedKey maxTtl)
    (newMessageId entropy) learnedPeer localPeer peers

def newKeyDelivery (state : NodeWorld prims) : NodeLabel → Option (RouterSend × Session prims)
  | .delivery index _ _ =>
      match state.tasks[index]? with
      | some (.delivering send session true) => some (send, session)
      | _ => none
  | _ => none

def acknowledges (send : RouterSend) : NodeLabel → Bool
  | .delivery _ link reply =>
      match sessionSend link (frameMessage send.messageId send.payload), reply with
      | .ok (), .bytes _ => true
      | _, _ => false
  | _ => false

section Deliveries

variable {state : NodeWorld prims} {index : Nat} {send : RouterSend} {session : Session prims}
  {link : Option Error} {reply : Received}

theorem new_key_delivery (present : state.tasks[index]? = some (.delivering send session true)) :
    (send, session) ∈ newKeyDelivery state (.delivery index link reply) := by
  simp [newKeyDelivery, present]

theorem acknowledges_delivered {received : Bytes}
    (sent : sessionSend link (frameMessage send.messageId send.payload) = .ok ()) :
    acknowledges send (.delivery index link (.bytes received)) = true := by
  unfold acknowledges
  dsimp only
  rw [sent]

theorem acknowledges_abandoned
    (failed : ∀ received, sessionSend link (frameMessage send.messageId send.payload) = .ok () →
      reply ≠ .bytes received) :
    acknowledges send (.delivery index link reply) = false := by
  unfold acknowledges
  dsimp only
  split
  · next received sent => exact absurd rfl (failed received sent)
  · rfl

end Deliveries

/-! ## Soundness -/

def EventsSound (state : NodeWorld prims) : Prop :=
  ∀ peer key, TransportEvent.keyLearned peer key ∈ state.events →
    peer = peerIdFromPublicKey prims key

/-- An acknowledged send reports a new key only if the peer it was meant for
answered. -/
def reportsForSession (state : NodeWorld prims) (label : NodeLabel) : Prop :=
  ∀ ending ∈ newKeyDelivery state label, acknowledges ending.1 label = true →
    ending.2.peerId = ending.1.peerId

theorem mem_key_events {peer reported : PeerId} {session : Session prims} {isNewKey : Bool}
    {key : PublicKey} (listed : .keyLearned peer key ∈ keyEvents reported session isNewKey) :
    isNewKey = true ∧ peer = reported ∧ key = session.remoteStaticKey := by
  unfold keyEvents at listed
  split_ifs at listed with new
  · cases List.mem_singleton.mp listed
    exact ⟨new, rfl, rfl⟩
  · cases listed

theorem sound_emit {state : NodeWorld prims} {events : List TransportEvent}
    (sound : EventsSound state)
    (added : ∀ peer key, TransportEvent.keyLearned peer key ∈ events →
      peer = peerIdFromPublicKey prims key) :
    EventsSound (state.emit events) := by
  intro peer key listed
  rcases List.mem_append.mp listed with earlier | new
  · exact sound peer key earlier
  · exact added peer key new

theorem key_events_sound {session : Session prims} {isNewKey : Bool} {peer : PeerId}
    {key : PublicKey} (listed : .keyLearned peer key ∈ keyEvents session.peerId session isNewKey) :
    peer = peerIdFromPublicKey prims key := by
  rcases mem_key_events listed with ⟨-, rfl, rfl⟩
  exact session.bound

theorem events_sound_step {state next : NodeWorld prims} {label : NodeLabel}
    (sound : EventsSound state) (allowed : reportsForSession state label)
    (taken : nodeStep state label = some next) : EventsSound next := by
  cases node_step_moves taken with
  | connected present => exact sound_emit sound fun _ _ => key_events_sound
  | greeted present => exact sound_emit sound fun _ _ => key_events_sound
  | notified present =>
      apply sound_emit sound
      intro peer key listed
      rcases List.mem_append.mp listed with learned | other
      · exact key_events_sound learned
      · cases List.mem_singleton.mp other
  | departed =>
      apply sound_emit sound
      intro peer key listed
      cases List.mem_singleton.mp listed
  | @delivered index received send session isNewKey link present sent =>
      apply sound_emit sound
      intro peer key listed
      rcases List.mem_cons.mp listed with delivered | learned
      · cases delivered
      · rcases mem_key_events learned with ⟨rfl, rfl, rfl⟩
        have answered :=
          allowed (send, session) (new_key_delivery present) (acknowledges_delivered sent)
        exact answered.symm.trans session.bound
  | _ => exact sound

/-- While acknowledged sends are answered by the peers they are meant for, every
reported key is bound to its peer, and every frame of the flood that a report starts
carries an announcement that a receiver accepts. -/
theorem key_learned_events_sound {identity : NodeIdentity prims} {peers : PeerTable}
    {maxKeyRegistrySize : Option Nat} {labels : List NodeLabel} {state : NodeWorld prims}
    (run : Run nodeStep reportsForSession (.start identity peers maxKeyRegistrySize) labels state)
    (peer : PeerId) (key : PublicKey)
    (reported : TransportEvent.keyLearned peer key ∈ state.events) :
    peer = peerIdFromPublicKey prims key ∧
      ∀ (entropy : Octets 8) (send : RouterSend),
        send ∈ floodKeyAnnouncement entropy state.node.peers state.node.localPeerId peer key →
        parseFrame (frameMessage send.messageId send.payload) =
            .routed send.messageId (.announcement peer key) maxTtl ∧
          validateKeyAnnouncement prims peer key = true := by
  have sound : EventsSound state := by
    apply run_invariant EventsSound _ run
    · intro peer key listed
      cases listed
    · intro before label after held allowed taken
      exact events_sound_step held allowed taken
  have bound := sound peer key reported
  apply And.intro bound
  intro entropy send flooded
  rcases mem_spawned_relays flooded with ⟨body, -⟩
  rw [body, parse_announcement]
  apply And.intro rfl
  simpa [validateKeyAnnouncement] using bound.symm

instance (state : NodeWorld prims) (label : NodeLabel) :
    Decidable (reportsForSession state label) :=
  inferInstanceAs (Decidable (∀ ending ∈ newKeyDelivery state label, _))

def sendAnswered (answering : UInt8) (reply : Received) : List NodeLabel :=
  [.call { announcements := [], payload := directBody [42], peerId := samplePeer 2
           messageId := newMessageId sampleEntropy },
    .proceed 0, .handshake 0 (sampleRemote answering), .exchange 0 .timedOut,
    .delivery 0 none reply]

def neighborNode : NodeWorld clearPrimitives := .start (sampleIdentity 1) (tableOf [3]) none

theorem key_learned_events_sound_answered :
    ∃ state, Run nodeStep reportsForSession neighborNode (sendAnswered 2 (.bytes [])) state ∧
      .keyLearned (samplePeer 2) (samplePeer 2).octets ∈ state.events ∧
      samplePeer 2 = peerIdFromPublicKey clearPrimitives (samplePeer 2).octets := by
  have finished : ((execute (fun state label =>
      if reportsForSession state label then nodeStep state label else none) neighborNode
        (sendAnswered 2 (.bytes []))).map fun state =>
          decide (.keyLearned (samplePeer 2) (samplePeer 2).octets ∈ state.events)) =
      some true := by
    decide +kernel
  obtain ⟨state, reached, found⟩ := Option.map_eq_some_iff.mp finished
  have run := run_of_execute_guarded reached
  have reported := of_decide_eq_true found
  exact ⟨state, run, reported, (key_learned_events_sound run _ _ reported).1⟩

def AlwaysSound : Prop :=
  ∀ (prims : Primitives) (identity : NodeIdentity prims) (peers : PeerTable)
    (maxKeyRegistrySize : Option Nat) (labels : List NodeLabel) (state : NodeWorld prims),
    Run nodeStep anyStep (.start identity peers maxKeyRegistrySize) labels state →
    EventsSound state

/-- Peer 9 acknowledges a send for peer 2, and its key is reported as peer 2's. -/
theorem impostor_key_reported : ¬ AlwaysSound := by
  intro always
  have finished : ((execute nodeStep neighborNode (sendAnswered 9 (.bytes []))).map fun state =>
      decide (.keyLearned (samplePeer 2) (samplePeer 9).octets ∈ state.events)) = some true := by
    decide +kernel
  obtain ⟨state, reached, found⟩ := Option.map_eq_some_iff.mp finished
  have sound := always _ _ _ _ _ state (run_of_execute reached) _ _ (of_decide_eq_true found)
  rw [clear_peer_id] at sound
  exact absurd sound (by decide)

/-! ## Completeness -/

def owedFor (peer : PeerId) (key : PublicKey) (session : Session prims) (isNewKey : Bool) : Nat :=
  if isNewKey = true ∧ session.peerId = peer ∧ session.remoteStaticKey = key then 1 else 0

/-- One if the task inserted this pair and has not reported it yet. -/
def Task.owes (peer : PeerId) (key : PublicKey) : Task prims → Nat
  | .exchanging _ session isNewKey => owedFor peer key session isNewKey
  | .delivering _ session isNewKey => owedFor peer key session isNewKey
  | .connectExchanging _ session isNewKey => owedFor peer key session isNewKey
  | .connected _ session isNewKey => owedFor peer key session isNewKey
  | .notifying session isNewKey => owedFor peer key session isNewKey
  | .accepted session isNewKey => owedFor peer key session isNewKey
  | _ => 0

/-- Every insertion of a remote pair has its own event, or a task that still owes it. -/
def Announced (peer : PeerId) (key : PublicKey) (state : NodeWorld prims) : Prop :=
  state.inserted.count (peer, key) =
    state.events.count (.keyLearned peer key) + weigh (Task.owes peer key) state.tasks

/-- A send whose handshake brought the key of a remote peer is acknowledged, and by
the peer it was meant for. -/
def reportsNewKeys (state : NodeWorld prims) (label : NodeLabel) : Prop :=
  ∀ ending ∈ newKeyDelivery state label,
    if acknowledges ending.1 label = true then ending.2.peerId = ending.1.peerId
    else ending.2.peerId = state.node.localPeerId

instance (state : NodeWorld prims) (label : NodeLabel) : Decidable (reportsNewKeys state label) :=
  inferInstanceAs (Decidable (∀ ending ∈ newKeyDelivery state label, _))

section Completeness

variable {peer : PeerId} {key : PublicKey} {state next : NodeWorld prims}

theorem reports_answered {label : NodeLabel} {ending : RouterSend × Session prims}
    (allowed : reportsNewKeys state label) (ends : ending ∈ newKeyDelivery state label)
    (answered : acknowledges ending.1 label = true) : ending.2.peerId = ending.1.peerId := by
  have decided := allowed ending ends
  rwa [if_pos answered] at decided

theorem reports_unanswered {label : NodeLabel} {ending : RouterSend × Session prims}
    (allowed : reportsNewKeys state label) (ends : ending ∈ newKeyDelivery state label)
    (unanswered : acknowledges ending.1 label = false) :
    ending.2.peerId = state.node.localPeerId := by
  have decided := allowed ending ends
  rwa [unanswered, if_neg Bool.false_ne_true] at decided

theorem owes_of_unbound {task : Task prims} (unbound : task.unbound = true) :
    task.owes peer key = 0 := by
  cases task with
  | sending | dialing | connecting | recording | listing => rfl
  | _ => cases unbound

theorem count_key_events (reported : PeerId) (session : Session prims) (isNewKey : Bool) :
    (keyEvents reported session isNewKey).count (.keyLearned peer key) =
      if isNewKey = true ∧ reported = peer ∧ session.remoteStaticKey = key then 1 else 0 := by
  cases isNewKey with
  | false => rfl
  | true => simp [keyEvents, List.count_singleton]

theorem count_own_events (session : Session prims) (isNewKey : Bool) :
    (keyEvents session.peerId session isNewKey).count (.keyLearned peer key) =
      owedFor peer key session isNewKey :=
  count_key_events session.peerId session isNewKey

theorem count_learned (state : NodeWorld prims) (session : Session prims) :
    (state.learn session).inserted.count (peer, key) =
      state.inserted.count (peer, key) + owedFor peer key session (state.isNewKey session) := by
  simp only [NodeWorld.learn, NodeWorld.isNewKey, owedFor, List.count_append]
  split_ifs with new same <;> simp_all

/-- An event pays what a task owed, and an insertion makes a task owe. -/
theorem announced_change (paid gained : Nat) (held : Announced peer key state)
    (inserted : next.inserted.count (peer, key) = state.inserted.count (peer, key) + gained)
    (emitted : next.events.count (.keyLearned peer key) =
      state.events.count (.keyLearned peer key) + paid)
    (owed : weigh (Task.owes peer key) next.tasks + paid =
      weigh (Task.owes peer key) state.tasks + gained) :
    Announced peer key next := by
  unfold Announced at held ⊢
  omega

section Tasks

variable {index : Nat} {old new : Task prims}

theorem announced_set (paid gained : Nat) (held : Announced peer key state)
    (present : state.tasks[index]? = some old) (tasks : next.tasks = state.tasks.set index new)
    (inserted : next.inserted.count (peer, key) = state.inserted.count (peer, key) + gained)
    (emitted : next.events.count (.keyLearned peer key) =
      state.events.count (.keyLearned peer key) + paid)
    (balanced : new.owes peer key + paid = old.owes peer key + gained) :
    Announced peer key next := by
  apply announced_change paid gained held inserted emitted
  have exchanged := @weigh_set _ _ _ (Task.owes peer key) _ _ _ new present
  rw [tasks]
  omega

theorem announced_erase (paid : Nat) (held : Announced peer key state)
    (present : state.tasks[index]? = some old) (tasks : next.tasks = state.tasks.eraseIdx index)
    (inserted : next.inserted = state.inserted)
    (emitted : next.events.count (.keyLearned peer key) =
      state.events.count (.keyLearned peer key) + paid)
    (balanced : paid = old.owes peer key) : Announced peer key next := by
  apply announced_change paid 0 held (congrArg (List.count (peer, key)) inserted) emitted
  have removed := weigh_eraseIdx (Task.owes peer key) present
  rw [tasks]
  omega

end Tasks

theorem owed_for_local (remote : peer ≠ state.node.localPeerId) {session : Session prims}
    (own : session.peerId = state.node.localPeerId) (isNewKey : Bool) :
    owedFor peer key session isNewKey = 0 := by
  apply if_neg
  intro given
  exact remote (given.2.1.symm.trans own)

theorem count_delivered_events {index : Nat} {received : Bytes} {send : RouterSend}
    {session : Session prims} {isNewKey : Bool} {link : Option Error}
    (allowed : reportsNewKeys state (.delivery index link (.bytes received)))
    (present : state.tasks[index]? = some (.delivering send session isNewKey))
    (sent : sessionSend link (frameMessage send.messageId send.payload) = .ok ()) :
    (keyEvents send.peerId session isNewKey).count (.keyLearned peer key) =
      owedFor peer key session isNewKey := by
  cases isNewKey with
  | false => rfl
  | true =>
      have answered : session.peerId = send.peerId :=
        reports_answered allowed (new_key_delivery present) (acknowledges_delivered sent)
      rw [← answered, count_own_events]

theorem owes_of_serves {task : Task prims} {payload : Bytes} {session : Session prims}
    (serves : task.serves payload = some session) : task.owes peer key = 0 := by
  cases task with
  | awaitingFirst | serving => rfl
  | _ => cases serves

theorem relays_owe_nothing (sends : List RouterSend) :
    weigh (Task.owes peer key) (sends.map (@Task.sending prims)) = 0 := by
  induction sends with
  | nil => rfl
  | cons send rest ih => simpa [Task.owes] using ih

theorem announced_step {label : NodeLabel} (remote : peer ≠ state.node.localPeerId)
    (held : Announced peer key state) (allowed : reportsNewKeys state label)
    (taken : nodeStep state label = some next) : Announced peer key next := by
  cases node_step_moves taken with
  | registered => exact held
  | ignored => exact held
  | departed =>
      refine announced_change 0 0 held rfl ?_ rfl
      simp [NodeWorld.emit]
  | spawned unbound =>
      refine announced_change 0 0 held rfl rfl ?_
      simp [NodeWorld.spawn, owes_of_unbound unbound]
  | accepted session =>
      refine announced_change 0 _ held (count_learned state session) rfl ?_
      simp [NodeWorld.spawn, NodeWorld.learn, NodeWorld.withRegistry, Task.owes]
  | advanced present before unbound =>
      refine announced_set 0 0 held present rfl rfl rfl ?_
      rw [owes_of_unbound before, owes_of_unbound unbound]
  | ended present unbound =>
      exact announced_erase 0 held present rfl rfl rfl (owes_of_unbound unbound).symm
  | closed present =>
      rcases present with first | serving
      · exact announced_erase 0 held first rfl rfl rfl rfl
      · exact announced_erase 0 held serving rfl rfl rfl rfl
  | refused present => exact announced_erase 0 held present rfl rfl rfl rfl
  | @dialed index remote send remoteKey session present =>
      exact announced_set 0 _ held present rfl (count_learned state session) rfl (Nat.add_comm ..)
  | @connectDialed index remote reason session present =>
      exact announced_set 0 _ held present rfl (count_learned state session) rfl (Nat.add_comm ..)
  | exchanged present => exact announced_set 0 0 held present rfl rfl rfl rfl
  | connectExchanged present => exact announced_set 0 0 held present rfl rfl rfl rfl
  | @delivered index received send session isNewKey link present sent =>
      refine announced_erase (owedFor peer key session isNewKey) held present rfl rfl ?_ rfl
      simp [NodeWorld.emit, NodeWorld.endTask, count_delivered_events allowed present sent]
  | @abandoned index link reply send session isNewKey present failed =>
      refine announced_erase 0 held present rfl rfl rfl ?_
      cases isNewKey with
      | false => rfl
      | true =>
          have own : session.peerId = state.node.localPeerId :=
            reports_unanswered allowed (new_key_delivery present) (acknowledges_abandoned failed)
          exact (owed_for_local remote own true).symm
  | @connected index announcement session isNewKey present =>
      refine announced_set (owedFor peer key session isNewKey) 0 held present rfl rfl ?_
        (Nat.add_comm ..)
      simp [NodeWorld.emit, NodeWorld.setTask, count_own_events]
  | discoveredSelf present own =>
      exact announced_erase 0 held present rfl rfl rfl (owed_for_local remote own _).symm
  | discovered present other => exact announced_set 0 0 held present rfl rfl rfl rfl
  | listed present => exact announced_erase 0 held present rfl rfl rfl rfl
  | @notified index session isNewKey present =>
      refine announced_erase (owedFor peer key session isNewKey) held present rfl rfl ?_ rfl
      simp [NodeWorld.emit, NodeWorld.endTask, count_own_events]
  | @greeted index session isNewKey present =>
      refine announced_set (owedFor peer key session isNewKey) 0 held present rfl rfl ?_
        (Nat.add_comm ..)
      simp [NodeWorld.emit, NodeWorld.setTask, count_own_events]
  | introduced present => exact announced_set 0 0 held present rfl rfl rfl rfl
  | @dispatched index now payload task session present serves later =>
      -- Named, so that comparing the states does not evaluate the parser.
      generalize frameOutcome state.node session.peerId now (parseFrame payload) = outcome
      refine announced_change 0 0 held rfl rfl ?_
      have idle : task.owes peer key = 0 := owes_of_serves serves
      rw [weigh_append, relays_owe_nothing, weigh_set_same _ present idle.symm]

end Completeness

/-- While every send that brings a remote key is acknowledged by the peer it is meant
for, each insertion of a remote pair is reported exactly once: by an event, or by a
task that is still going to emit one. -/
theorem learned_keys_announced {identity : NodeIdentity prims} {peers : PeerTable}
    {maxKeyRegistrySize : Option Nat} {labels : List NodeLabel} {state : NodeWorld prims}
    (run : Run nodeStep reportsNewKeys (.start identity peers maxKeyRegistrySize) labels state)
    (peer : PeerId) (key : PublicKey) (remote : peer ≠ identity.peerId) :
    Announced peer key state := by
  induction run with
  | start => rfl
  | extend prior allowed taken ih =>
      have own := congrArg NodeIdentity.peerId (identity_run prior)
      exact announced_step (fun same => remote (same.trans own)) ih allowed taken

/-- Peer 9 connects, peer 2 is sent to, and both keys are reported. -/
theorem learned_keys_announced_answered :
    ∃ state, Run nodeStep reportsNewKeys neighborNode
        (sendAnswered 2 (.bytes []) ++ [.accept (samplePeer 9).octets]) state ∧
      state.inserted =
        [(samplePeer 2, (samplePeer 2).octets), (samplePeer 9, (samplePeer 9).octets)] ∧
      Announced (samplePeer 2) (samplePeer 2).octets state ∧
      Announced (samplePeer 9) (samplePeer 9).octets state := by
  have finished : ((execute (fun state label =>
      if reportsNewKeys state label then nodeStep state label else none) neighborNode
        (sendAnswered 2 (.bytes []) ++ [.accept (samplePeer 9).octets])).map NodeWorld.inserted) =
      some [(samplePeer 2, (samplePeer 2).octets), (samplePeer 9, (samplePeer 9).octets)] := by
    decide +kernel
  obtain ⟨state, reached, found⟩ := Option.map_eq_some_iff.mp finished
  have run := run_of_execute_guarded reached
  exact ⟨state, run, found, learned_keys_announced run _ _ (by decide),
    learned_keys_announced run _ _ (by decide)⟩

def AlwaysAnnounced : Prop :=
  ∀ (prims : Primitives) (identity : NodeIdentity prims) (peers : PeerTable)
    (maxKeyRegistrySize : Option Nat) (labels : List NodeLabel) (state : NodeWorld prims),
    Run nodeStep anyStep (.start identity peers maxKeyRegistrySize) labels state →
    ∀ peer key, peer ≠ identity.peerId → Announced peer key state

/-- The acknowledgement times out: the key is in the registry and nobody will report it. -/
theorem unacknowledged_key_unreported : ¬ AlwaysAnnounced := by
  intro always
  have finished : ((execute nodeStep neighborNode (sendAnswered 2 .timedOut)).map fun state =>
      (state.inserted.count (samplePeer 2, (samplePeer 2).octets), state.events,
        state.tasks.length)) = some (1, [], 0) := by
    decide +kernel
  obtain ⟨state, reached, found⟩ := Option.map_eq_some_iff.mp finished
  simp only [Prod.mk.injEq, List.length_eq_zero_iff] at found
  rcases found with ⟨inserted, silent, finished⟩
  have announced := always _ _ _ _ _ state (run_of_execute reached) (samplePeer 2)
    (samplePeer 2).octets (by decide)
  rw [Announced, inserted, silent, finished] at announced
  cases announced

end Pathweave
