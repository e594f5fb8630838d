import Pathweave.KeyAnnouncements

/-!
# How often a key is reported

Every `KeyLearned` event starts a flood, and the handshakes of a flood may bring new keys.
That this comes to an end rests on the registry: whichever tasks complete handshakes with
one party at the same time, only the one that found the registry without the key reports
it, and a second report needs the entry to be lost in between.
-/

namespace Pathweave

open ByteStrings GuardedRuns Weights

set_option autoImplicit false

variable {prims : Primitives}

def TransportEvent.reports (key : PublicKey) : TransportEvent → Bool
  | .keyLearned _ reported => reported = key
  | _ => false

def dueFor (key : PublicKey) (session : Session prims) (isNewKey : Bool) : Nat :=
  if isNewKey = true ∧ session.remoteStaticKey = key then 1 else 0

/-- One if the task may still report the key. -/
def Task.due (key : PublicKey) : Task prims → Nat
  | .exchanging _ session isNewKey => dueFor key session isNewKey
  | .delivering _ session isNewKey => dueFor key session isNewKey
  | .connectExchanging _ session isNewKey => dueFor key session isNewKey
  | .connected _ session isNewKey => dueFor key session isNewKey
  | .notifying session isNewKey => dueFor key session isNewKey
  | .accepted session isNewKey => dueFor key session isNewKey
  | _ => 0

namespace NodeWorld

variable (key : PublicKey) (peer : PeerId) (state next : NodeWorld prims)

/-- The reports of the key that were made or may still be made. -/
def reportsDue : Nat :=
  state.events.countP (TransportEvent.reports key) + weigh (Task.due key) state.tasks

def absent : Nat := if (state.node.keyRegistry.get peer).isNone then 1 else 0

def lost : Nat :=
  if (state.node.keyRegistry.get peer).isSome ∧ (next.node.keyRegistry.get peer).isNone then 1
  else 0

end NodeWorld

def losses (peer : PeerId) : NodeWorld prims → List NodeLabel → Nat
  | _, [] => 0
  | state, label :: rest =>
      match nodeStep state label with
      | some next => state.lost peer next + losses peer next rest
      | none => 0

section Reports

variable {key : PublicKey} {peer : PeerId} {state next : NodeWorld prims} {index : Nat}
  {old new : Task prims}

theorem losses_snoc {first : NodeWorld prims} {labels : List NodeLabel} {label : NodeLabel}
    (reached : execute nodeStep first labels = some state)
    (taken : nodeStep state label = some next) :
    losses peer first (labels ++ [label]) = losses peer first labels + state.lost peer next := by
  induction labels generalizing first with
  | nil =>
      cases reached
      simp [losses, taken]
  | cons head rest ih =>
      obtain ⟨middle, stepped, continued⟩ := Option.bind_eq_some_iff.mp reached
      simp only [List.cons_append, losses, stepped]
      rw [ih continued, Nat.add_assoc]

theorem absent_after (peer : PeerId) (state next : NodeWorld prims) :
    next.absent peer ≤ state.absent peer + state.lost peer next := by
  unfold NodeWorld.absent NodeWorld.lost
  cases state.node.keyRegistry.get peer with
  | none =>
      rw [Option.isNone_none, if_pos rfl]
      split_ifs <;> omega
  | some before =>
      cases next.node.keyRegistry.get peer with
      | none => simp
      | some after => simp

theorem due_of_unbound {task : Task prims} (unbound : task.unbound = true) :
    task.due key = 0 := by
  cases task with
  | sending | dialing | connecting | recording | listing => rfl
  | _ => cases unbound

theorem due_relays (sends : List RouterSend) :
    weigh (Task.due key) (sends.map (Task.sending : RouterSend → Task prims)) = 0 := by
  induction sends with
  | nil => rfl
  | cons send rest ih =>
      rw [List.map_cons, weigh_cons, ih]
      rfl

theorem count_reports (peer : PeerId) (session : Session prims) (isNewKey : Bool) :
    (keyEvents peer session isNewKey).countP (TransportEvent.reports key) =
      dueFor key session isNewKey := by
  cases isNewKey with
  | false => rfl
  | true => simp [keyEvents, dueFor, TransportEvent.reports, List.countP_singleton]

theorem count_other {event : TransportEvent} (other : ∀ peer, event ≠ .keyLearned peer key) :
    event.reports key = false := by
  cases event with
  | keyLearned peer reported =>
      refine decide_eq_false fun same => other peer ?_
      rw [same]
  | _ => rfl

theorem learn_due (key : PublicKey) (state : NodeWorld prims) (session : Session prims) :
    dueFor key session (state.isNewKey session) +
        (state.learn session).absent (peerIdFromPublicKey prims key) ≤
      state.absent (peerIdFromPublicKey prims key) := by
  have registry : (state.learn session).node.keyRegistry =
      (state.node.keyRegistry.insertDirect session.peerId session.remoteStaticKey).1 := rfl
  have flag : state.isNewKey session =
      (state.node.keyRegistry.get session.peerId).isNone := rfl
  unfold dueFor NodeWorld.absent
  rw [registry, KeyRegistryState.get_insert_direct, flag]
  by_cases same : session.remoteStaticKey = key
  · have own : peerIdFromPublicKey prims key = session.peerId := by
      rw [session.bound, same]
    simp [own, same]
  · rw [if_neg fun both => same both.2]
    split_ifs <;> simp_all

theorem due_set (paid : Nat) (present : state.tasks[index]? = some old)
    (tasks : next.tasks = state.tasks.set index new)
    (emitted : next.events.countP (TransportEvent.reports key) =
      state.events.countP (TransportEvent.reports key) + paid)
    (balanced : new.due key + paid ≤ old.due key) :
    next.reportsDue key ≤ state.reportsDue key := by
  have changed := @weigh_set _ _ _ (Task.due key) _ _ _ new present
  unfold NodeWorld.reportsDue
  rw [tasks, emitted]
  omega

theorem due_erase (paid : Nat) (present : state.tasks[index]? = some old)
    (tasks : next.tasks = state.tasks.eraseIdx index)
    (emitted : next.events.countP (TransportEvent.reports key) =
      state.events.countP (TransportEvent.reports key) + paid)
    (balanced : paid ≤ old.due key) : next.reportsDue key ≤ state.reportsDue key := by
  have removed := weigh_eraseIdx (Task.due key) present
  unfold NodeWorld.reportsDue
  rw [tasks, emitted]
  omega

theorem due_gained (new : Task prims) {gained : Nat} (present : state.tasks[index]? = some old)
    (tasks : next.tasks = state.tasks.set index new) (events : next.events = state.events)
    (before : old.due key = 0) (after : new.due key = gained) :
    next.reportsDue key = state.reportsDue key + gained := by
  have changed := @weigh_set _ _ _ (Task.due key) _ _ _ new present
  unfold NodeWorld.reportsDue
  rw [tasks, events]
  omega

theorem learned_due (session : Session prims)
    (registry : next.node.keyRegistry = (state.learn session).node.keyRegistry)
    (due : next.reportsDue key =
      state.reportsDue key + dueFor key session (state.isNewKey session)) :
    next.reportsDue key + next.absent (peerIdFromPublicKey prims key) ≤
      state.reportsDue key + state.absent (peerIdFromPublicKey prims key) := by
  have learned := learn_due key state session
  have same : next.absent (peerIdFromPublicKey prims key) =
      (state.learn session).absent (peerIdFromPublicKey prims key) := by
    unfold NodeWorld.absent
    rw [registry]
  omega

theorem due_step {label : NodeLabel} (taken : nodeStep state label = some next) :
    next.reportsDue key + next.absent (peerIdFromPublicKey prims key) ≤
      state.reportsDue key + state.absent (peerIdFromPublicKey prims key) +
        state.lost (peerIdFromPublicKey prims key) next := by
  have kept : next.reportsDue key ≤ state.reportsDue key →
      next.reportsDue key + next.absent (peerIdFromPublicKey prims key) ≤
        state.reportsDue key + state.absent (peerIdFromPublicKey prims key) +
          state.lost (peerIdFromPublicKey prims key) next := by
    intro fewer
    have absent := absent_after (peerIdFromPublicKey prims key) state next
    omega
  have learns : ∀ (session : Session prims),
      next.node.keyRegistry = (state.learn session).node.keyRegistry →
      next.reportsDue key =
        state.reportsDue key + dueFor key session (state.isNewKey session) →
      next.reportsDue key + next.absent (peerIdFromPublicKey prims key) ≤
        state.reportsDue key + state.absent (peerIdFromPublicKey prims key) +
          state.lost (peerIdFromPublicKey prims key) next :=
    fun session registry due => Nat.le_add_right_of_le (learned_due session registry due)
  cases node_step_moves taken with
  | registered | ignored => exact kept le_rfl
  | departed => exact kept (le_of_eq (by simp [NodeWorld.reportsDue, NodeWorld.emit, count_other]))
  | spawned unbound =>
      refine kept (le_of_eq ?_)
      simp [NodeWorld.reportsDue, NodeWorld.spawn, due_of_unbound unbound]
  | accepted session =>
      refine learns session rfl ?_
      simp [NodeWorld.reportsDue, NodeWorld.spawn, NodeWorld.learn, NodeWorld.withRegistry,
        Task.due, Nat.add_assoc]
  | advanced present before unbound =>
      exact kept (due_set 0 present rfl rfl (by rw [due_of_unbound unbound]; exact Nat.zero_le _))
  | ended present unbound => exact kept (due_erase 0 present rfl rfl (Nat.zero_le _))
  | closed present =>
      rcases present with waiting | serving
      · exact kept (due_erase 0 waiting rfl rfl (Nat.zero_le _))
      · exact kept (due_erase 0 serving rfl rfl (Nat.zero_le _))
  | refused present => exact kept (due_erase 0 present rfl rfl (Nat.zero_le _))
  | @dialed _ _ send _ session present =>
      refine learns session rfl
        (due_gained (.exchanging send session (state.isNewKey session)) present ?_ ?_ ?_ ?_)
      all_goals rfl
  | @connectDialed _ _ reason session present =>
      refine learns session rfl
        (due_gained (.connectExchanging reason session (state.isNewKey session)) present ?_ ?_
          ?_ ?_)
      all_goals rfl
  | exchanged present | connectExchanged present | discovered present _ | introduced present =>
      exact kept (due_set 0 present rfl rfl le_rfl)
  | @delivered _ _ send session isNewKey _ present sent =>
      refine kept (due_erase (dueFor key session isNewKey) present rfl ?_ le_rfl)
      simp [NodeWorld.emit, NodeWorld.endTask, count_reports, count_other]
  | @connected _ _ session isNewKey present =>
      refine kept (due_set (dueFor key session isNewKey) present rfl ?_ ?_)
      · simp [NodeWorld.emit, NodeWorld.setTask, count_reports]
      · exact le_of_eq (Nat.zero_add _)
  | @notified _ session isNewKey present =>
      refine kept (due_erase (dueFor key session isNewKey) present rfl ?_ le_rfl)
      simp [NodeWorld.emit, NodeWorld.endTask, count_reports, count_other]
  | @greeted _ session isNewKey present =>
      refine kept (due_set (dueFor key session isNewKey) present rfl ?_ ?_)
      · simp [NodeWorld.emit, NodeWorld.setTask, count_reports]
      · exact le_of_eq (Nat.zero_add _)
  | abandoned present _ | discoveredSelf present _ | listed present =>
      exact kept (due_erase 0 present rfl rfl (Nat.zero_le _))
  | @dispatched index now payload task session present serves later =>
      have served := @weigh_set _ _ _ (Task.due key) _ _ _ (.serving session) present
      have idle : (Task.serving session).due key = 0 := rfl
      apply kept
      simp only [NodeWorld.reportsDue, weigh_append, due_relays]
      omega

theorem due_run {first : NodeWorld prims} {labels : List NodeLabel}
    (run : Run nodeStep anyStep first labels state) :
    state.reportsDue key + state.absent (peerIdFromPublicKey prims key) ≤
      first.reportsDue key + first.absent (peerIdFromPublicKey prims key) +
        losses (peerIdFromPublicKey prims key) first labels := by
  induction run with
  | start => exact Nat.le_add_right ..
  | extend prior allowed taken ih =>
      have step := @due_step _ key _ _ _ taken
      rw [losses_snoc (execute_of_run prior) taken]
      omega

end Reports

/-- However the tasks of a node interleave, a key is reported once at most, and once more
for each time that the registry has lost its entry: by an eviction, or after a handshake
that asked for the key and failed. So a party that stays known starts one flood, whoever
completes handshakes with it and how often. -/
theorem key_reported_once (identity : NodeIdentity prims) (peers : PeerTable)
    (maxKeyRegistrySize : Option Nat) (labels : List NodeLabel) (state : NodeWorld prims)
    (run : Run nodeStep anyStep (.start identity peers maxKeyRegistrySize) labels state)
    (key : PublicKey) :
    state.events.countP (TransportEvent.reports key) ≤
      1 + losses (peerIdFromPublicKey prims key) (.start identity peers maxKeyRegistrySize)
        labels := by
  have bounded := @due_run _ key _ _ _ run
  have none : (NodeWorld.start identity peers maxKeyRegistrySize).reportsDue key = 0 := rfl
  have unknown : (NodeWorld.start identity peers maxKeyRegistrySize).absent
      (peerIdFromPublicKey prims key) = 1 := rfl
  unfold NodeWorld.reportsDue at bounded none
  omega

/-- Peer 2 answers, then somebody else in its place, and then peer 2 again. -/
def answeredAgain : List NodeLabel :=
  sendAnswered 2 (.bytes []) ++
    [.call { announcements := [], payload := directBody [42], peerId := samplePeer 2
             messageId := newMessageId sampleEntropy },
      .proceed 0, .handshake 0 impostor] ++ sendAnswered 2 (.bytes [])

theorem key_reported_once_again :
    ∃ state, Run nodeStep anyStep neighborNode answeredAgain state ∧
      losses (samplePeer 2) neighborNode answeredAgain = 1 ∧
      state.events.countP (TransportEvent.reports (samplePeer 2).octets) = 2 ∧
      state.events.countP (TransportEvent.reports (samplePeer 2).octets) ≤
        1 + losses (peerIdFromPublicKey clearPrimitives (samplePeer 2).octets) neighborNode
          answeredAgain := by
  have finished : ((execute nodeStep neighborNode answeredAgain).map fun state =>
      (losses (samplePeer 2) neighborNode answeredAgain,
        state.events.countP (TransportEvent.reports (samplePeer 2).octets))) = some (1, 2) := by
    decide +kernel
  obtain ⟨state, reached, found⟩ := Option.map_eq_some_iff.mp finished
  obtain ⟨lost, reported⟩ := Prod.mk.inj found
  have run := run_of_execute reached
  exact ⟨state, run, lost, reported, key_reported_once _ _ _ _ state run _⟩

end Pathweave
