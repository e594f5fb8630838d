import Mathlib.Algebra.BigOperators.Group.Finset.Basic
import Pathweave.GuardedRuns
import Pathweave.RoutedEffects
import Pathweave.Weights
import Pathweave.TaskLists

/-!
# A mesh of honest nodes and the frames in flight between them

Every node runs `dispatchPayload`; a label picks the frame that is processed
next, so a list of labels is one arrival order. A frame that is sent later than
the start of a run is a frame in flight that is processed late, so the calls that
put frames on the mesh need no labels of their own.
-/

namespace Pathweave

open ByteStrings GuardedRuns Weights TaskLists

set_option autoImplicit false

/-! ## Originating a flood -/

section Originate

variable {prims : Primitives} (node : NodeState prims) (accepted : RouterSend → Bool)
  (entropy : Octets 8) (dest : PeerId) (payload : Bytes)

/-- The common tail of the originating calls: one `Router::send` per neighbour.
`accepted` stands for the results of these sends. -/
def floodFromOriginator (messageId : UInt64) (body : Bytes) :
    List RouterSend × Except Error Unit :=
  let sends := (neighborsExcept node.peers [node.localPeerId]).map fun neighbor =>
    { announcements := neighbor.2
      payload := body
      peerId := neighbor.1
      messageId := messageId : RouterSend }
  if sends.isEmpty then ([], .error .noTransportAvailable)
  else (sends, if sends.any accepted then .ok () else .error .deliveryFailed)

def sendRouted : List RouterSend × Except Error Unit :=
  floodFromOriginator node accepted (newMessageId entropy) (routedBody dest maxTtl payload)

def sendRoutedSealed (ephemeral : Bytes) : List RouterSend × Except Error Unit :=
  match node.keyRegistry.get dest with
  | none => ([], .error (.keyUnknown dest))
  | some destPublicKey =>
      match sealPayload node.identity destPublicKey ephemeral payload with
      | .error error => ([], .error error)
      | .ok sealed =>
          floodFromOriginator node accepted (newMessageId entropy)
            (sealedBody dest maxTtl (node.localPeerId.asBytes ++ sealed))

section Sends

variable {node accepted} {messageId : UInt64} {body : Bytes} {send : RouterSend}

theorem originated_eq :
    (floodFromOriginator node accepted messageId body).1 =
      (neighborsExcept node.peers [node.localPeerId]).map fun neighbor =>
        { announcements := neighbor.2
          payload := body
          peerId := neighbor.1
          messageId := messageId } := by
  unfold floodFromOriginator
  dsimp only
  split_ifs with alone
  · exact (List.isEmpty_iff.mp alone).symm
  all_goals rfl

theorem mem_originated (sent : send ∈ (floodFromOriginator node accepted messageId body).1) :
    send.payload = body ∧ send.messageId = messageId ∧ send.peerId ∈ node.peers ∧
      send.peerId ≠ node.localPeerId := by
  rw [originated_eq] at sent
  obtain ⟨neighbor, listed, rfl⟩ := List.mem_map.mp sent
  rcases mem_neighbors_except.mp (List.mem_map_of_mem listed) with ⟨known, kept⟩
  exact ⟨rfl, rfl, known, by simpa using kept⟩

end Sends

variable {node}

theorem originated_exists (messageId : UInt64) (body : Bytes) {peer : PeerId}
    (known : peer ∈ node.peers) (notLocal : peer ≠ node.localPeerId) :
    ∃ send ∈ (floodFromOriginator node accepted messageId body).1, send.peerId = peer := by
  have member : peer ∈ (neighborsExcept node.peers [node.localPeerId]).map Prod.fst :=
    mem_neighbors_except.mpr ⟨known, by simpa using notLocal⟩
  obtain ⟨neighbor, listed, rfl⟩ := List.mem_map.mp member
  rw [originated_eq]
  exact ⟨_, List.mem_map_of_mem listed, rfl⟩

end Originate

/-! ## States and steps -/

/-- A frame on its way. `retries` bounds how often `Router::send` may still
transmit it again after a lost acknowledgement, and `path` names the nodes that
relayed it so far. -/
structure Transmission where
  sender : PeerId
  receiver : PeerId
  frame : Bytes
  retries : Nat
  path : List PeerId
  deriving DecidableEq

structure Dispatched where
  node : PeerId
  copy : Transmission
  delivered : Option (PeerId × Bytes)
  relays : List RouterSend
  deriving DecidableEq

structure Mesh (prims : Primitives) where
  members : Finset PeerId
  nodes : PeerId → NodeState prims
  placed : ∀ peer ∈ members, (nodes peer).localPeerId = peer
  retries : Nat

structure MeshState (prims : Primitives) where
  nodes : PeerId → NodeState prims
  inFlight : List Transmission
  history : List Dispatched

/-- `again` keeps the copy for another transmission of the same send. -/
inductive MeshLabel where
  | deliver (index now : Nat) (again : Bool)
  | lose (index : Nat)
  deriving DecidableEq

def Transmission.spend (copy : Transmission) : Transmission :=
  { copy with retries := copy.retries - 1 }

def transmit (retries : Nat) (sender : PeerId) (path : List PeerId) (send : RouterSend) :
    Transmission where
  sender := sender
  receiver := send.peerId
  frame := frameMessage send.messageId send.payload
  retries := retries
  path := path

def remaining (inFlight : List Transmission) (index : Nat) (again : Bool) (copy : Transmission) :
    List Transmission :=
  if again then inFlight.set index copy.spend else inFlight.eraseIdx index

section Steps

variable {prims : Primitives} (mesh : Mesh prims)

def Mesh.idle (traffic : List Transmission) : MeshState prims where
  nodes := mesh.nodes
  inFlight := traffic
  history := []

def MeshState.process (state : MeshState prims) (index : Nat) (again : Bool)
    (copy : Transmission) (outcome : DispatchOutcome prims) : MeshState prims where
  nodes := Function.update state.nodes copy.receiver outcome.node
  inFlight := remaining state.inFlight index again copy ++
    outcome.relays.map (transmit mesh.retries copy.receiver (copy.path ++ [copy.receiver]))
  history := state.history ++
    [{ node := copy.receiver
       copy := copy
       delivered := outcome.delivered
       relays := outcome.relays }]

def meshStep (state : MeshState prims) : MeshLabel → Option (MeshState prims)
  | .deliver index now again =>
      match state.inFlight[index]? with
      | none => none
      | some copy =>
          if copy.receiver ∈ mesh.members ∧ (again → 0 < copy.retries) then
            match dispatchPayload (state.nodes copy.receiver) copy.sender now copy.frame with
            | .ok outcome => some (state.process mesh index again copy outcome)
            | .error _ => none
          else none
  | .lose index =>
      if index < state.inFlight.length then
        some { state with inFlight := state.inFlight.eraseIdx index }
      else none

def noExpiry (state : MeshState prims) : MeshLabel → Prop
  | .deliver index now _ =>
      ∀ copy, state.inFlight[index]? = some copy → (state.nodes copy.receiver).Unexpired now
  | .lose _ => True

def noLoss (_ : MeshState prims) : MeshLabel → Prop
  | .deliver _ _ _ => True
  | .lose _ => False

/-! ## What a step can do -/

def MeshState.outcome (state : MeshState prims) (now : Nat) (copy : Transmission) :
    DispatchOutcome prims :=
  frameOutcome (state.nodes copy.receiver) copy.sender now (parseFrame copy.frame)

inductive MeshMove (state : MeshState prims) : MeshLabel → MeshState prims → Prop where
  | delivered {index now : Nat} {again : Bool} {copy : Transmission}
      (present : state.inFlight[index]? = some copy)
      (member : copy.receiver ∈ mesh.members)
      (budget : again → 0 < copy.retries) :
      MeshMove state (.deliver index now again)
        (state.process mesh index again copy (state.outcome now copy))
  | lost {index : Nat} (inside : index < state.inFlight.length) :
      MeshMove state (.lose index) { state with inFlight := state.inFlight.eraseIdx index }

variable {mesh} {state next : MeshState prims} {label : MeshLabel}

/-- A dispatch never panics, so the source's step is the abstract one. -/
theorem mesh_step_moves (taken : meshStep mesh state label = some next) :
    MeshMove mesh state label next := by
  cases label with
  | deliver index now again =>
      unfold meshStep at taken
      dsimp only at taken
      split at taken
      · cases taken
      · rename_i copy present
        split_ifs at taken with enabled
        rw [dispatch_payload_eq] at taken
        cases taken
        exact .delivered present enabled.1 enabled.2
  | lose index =>
      simp only [meshStep] at taken
      split_ifs at taken with inside
      cases taken
      exact .lost inside

@[simp] theorem process_nodes_self (index : Nat) (again : Bool) (copy : Transmission)
    (outcome : DispatchOutcome prims) :
    (state.process mesh index again copy outcome).nodes copy.receiver = outcome.node := by
  simp [MeshState.process]

theorem process_nodes_of_ne (index : Nat) (again : Bool) {copy : Transmission}
    (outcome : DispatchOutcome prims) {peer : PeerId} (elsewhere : peer ≠ copy.receiver) :
    (state.process mesh index again copy outcome).nodes peer = state.nodes peer := by
  simp [MeshState.process, elsewhere]

/-! ## Copies in flight -/

section Remaining

variable {inFlight : List Transmission} {index : Nat} {again : Bool} {copy other : Transmission}

theorem mem_remaining (kept : other ∈ remaining inFlight index again copy) :
    other ∈ inFlight ∨ other = copy.spend := by
  unfold remaining at kept
  split_ifs at kept
  · exact List.mem_or_eq_of_mem_set kept
  · exact .inl (List.mem_of_mem_eraseIdx kept)

theorem kept_of_ne (present : inFlight[index]? = some copy) (listed : other ∈ inFlight)
    (distinct : other ≠ copy) : other ∈ remaining inFlight index again copy := by
  unfold remaining
  split_ifs
  · exact mem_set_of_ne present listed distinct
  · exact mem_erase_idx_of_ne present listed distinct

/-- How many more times the copies in flight can be processed. -/
def cost (copies : List Transmission) : Nat := weigh (fun copy => copy.retries + 1) copies

theorem cost_append (left right : List Transmission) :
    cost (left ++ right) = cost left + cost right :=
  weigh_append _ left right

theorem cost_eraseIdx (present : inFlight[index]? = some copy) :
    cost (inFlight.eraseIdx index) + (copy.retries + 1) = cost inFlight :=
  weigh_eraseIdx _ present

theorem cost_remaining (present : inFlight[index]? = some copy)
    (budget : again → 0 < copy.retries) :
    cost (remaining inFlight index again copy) + 1 ≤ cost inFlight := by
  unfold remaining
  split_ifs with stays
  · have spent : cost (inFlight.set index copy.spend) + (copy.retries + 1) =
        cost inFlight + (copy.spend.retries + 1) := weigh_set _ present
    have positive := budget stays
    simp only [Transmission.spend] at spent ⊢
    omega
  · have erased := cost_eraseIdx present
    omega

end Remaining

/-- A property of copies that does not depend on their retries holds of all
copies in flight after a step if it holds of the relays the step causes. -/
theorem in_flight_invariant (property : Transmission → Prop)
    (stable : ∀ copy, property copy → property copy.spend)
    (relayed : ∀ copy now, copy.receiver ∈ mesh.members → property copy →
      ∀ send ∈ (state.outcome now copy).relays,
        property (transmit mesh.retries copy.receiver (copy.path ++ [copy.receiver]) send))
    (held : ∀ copy ∈ state.inFlight, property copy)
    (moved : MeshMove mesh state label next) : ∀ copy ∈ next.inFlight, property copy := by
  cases moved with
  | @delivered index now again copy present member budget =>
      intro other listed
      have known := held copy (List.mem_of_getElem? present)
      simp only [MeshState.process, List.mem_append, List.mem_map] at listed
      rcases listed with kept | ⟨send, sent, rfl⟩
      · rcases mem_remaining kept with old | rfl
        · exact held other old
        · exact stable copy known
      · exact relayed copy now member known send sent
  | lost inside =>
      intro other listed
      exact held other (List.mem_of_mem_eraseIdx listed)

/-- A property of dispatches holds of the whole history after a step if it
holds of the dispatch the step makes. -/
theorem history_invariant (property : Dispatched → Prop)
    (fresh : ∀ copy now, copy ∈ state.inFlight → copy.receiver ∈ mesh.members →
      property { node := copy.receiver
                 copy := copy
                 delivered := (state.outcome now copy).delivered
                 relays := (state.outcome now copy).relays })
    (held : ∀ entry ∈ state.history, property entry)
    (moved : MeshMove mesh state label next) : ∀ entry ∈ next.history, property entry := by
  cases moved with
  | delivered present member budget =>
      intro entry listed
      simp only [MeshState.process, List.mem_append, List.mem_singleton] at listed
      rcases listed with old | rfl
      · exact held entry old
      · exact fresh _ _ (List.mem_of_getElem? present) member
  | lost inside => exact held

/-! ## Settings never change -/

def Mesh.SameSettings (mesh : Mesh prims) (state : MeshState prims) : Prop :=
  ∀ peer, SameSetting (mesh.nodes peer) (state.nodes peer)

theorem same_settings_idle (traffic : List Transmission) :
    mesh.SameSettings (mesh.idle traffic) :=
  fun _ => ⟨rfl, rfl, rfl, rfl⟩

theorem SameSetting.trans {first second third : NodeState prims} (left : SameSetting first second)
    (right : SameSetting second third) : SameSetting first third :=
  ⟨right.identity.trans left.identity, right.peers.trans left.peers,
    right.handler.trans left.handler, right.lifetime.trans left.lifetime⟩

theorem same_settings_step (same : mesh.SameSettings state)
    (moved : MeshMove mesh state label next) : mesh.SameSettings next := by
  cases moved with
  | @delivered index now again copy present member budget =>
      intro peer
      by_cases here : peer = copy.receiver
      · subst here
        rw [process_nodes_self]
        exact (same copy.receiver).trans (frame_outcome_setting _ _ _ _)
      · rw [process_nodes_of_ne _ _ _ here]
        exact same peer
  | lost inside => exact same

theorem Mesh.SameSettings.local_peer (same : mesh.SameSettings state) {peer : PeerId}
    (member : peer ∈ mesh.members) : (state.nodes peer).localPeerId = peer := by
  rw [NodeState.localPeerId, (same peer).identity]
  exact mesh.placed peer member

theorem Mesh.SameSettings.peers_eq (same : mesh.SameSettings state) (peer : PeerId) :
    (state.nodes peer).peers = (mesh.nodes peer).peers :=
  (same peer).peers

/-! ## Runs at one instant -/

def MeshLabel.isDeliveryAt (instant : Nat) : MeshLabel → Bool
  | .deliver _ now _ => now = instant
  | .lose _ => false

def MeshState.AtInstant (instant : Nat) (state : MeshState prims) : Prop :=
  ∀ peer, 0 < (state.nodes peer).dedup.ttl ∧
    ∀ messageId inserted, (state.nodes peer).dedup.seenRouted messageId = some inserted →
      inserted = instant

theorem at_instant_step {instant : Nat} (held : state.AtInstant instant)
    (delivery : label.isDeliveryAt instant = true) (moved : MeshMove mesh state label next) :
    next.AtInstant instant := by
  cases moved with
  | @delivered index now again copy present member budget =>
      simp only [MeshLabel.isDeliveryAt, decide_eq_true_eq] at delivery
      intro peer
      by_cases here : peer = copy.receiver
      · subst here
        rw [process_nodes_self]
        refine ⟨?_, fun messageId inserted entry => ?_⟩
        · rw [MeshState.outcome, (frame_outcome_setting _ _ _ _).lifetime]
          exact (held copy.receiver).1
        · rcases frame_outcome_entry entry with old | current
          · exact (held copy.receiver).2 messageId inserted old
          · exact current.trans delivery
      · rw [process_nodes_of_ne _ _ _ here]
        exact held peer
  | lost inside => simp [MeshLabel.isDeliveryAt] at delivery

theorem at_instant_execute {instant : Nat} {first : MeshState prims} {labels : List MeshLabel}
    (initial : first.AtInstant instant)
    (deliveries : labels.all (MeshLabel.isDeliveryAt instant) = true)
    (reached : execute (meshStep mesh) first labels = some state) : state.AtInstant instant := by
  have run : Run (meshStep mesh) (fun _ label => label.isDeliveryAt instant = true) first labels
      state :=
    guarded_run_of_execute (fun _ => True) (fun label => label.isDeliveryAt instant = true)
      (fun _ _ _ delivery => delivery) (fun _ _ _ _ _ _ => trivial) trivial
      (by simpa using deliveries) reached
  exact run_invariant (MeshState.AtInstant instant)
    (fun _ _ _ held delivery taken => at_instant_step held delivery (mesh_step_moves taken)) run
    initial

/-- Where every frame is processed at one clock reading, nothing expires. -/
theorem run_at_instant_from {instant : Nat} {first : MeshState prims} {labels : List MeshLabel}
    (initial : first.AtInstant instant)
    (deliveries : labels.all (MeshLabel.isDeliveryAt instant) = true)
    (reached : execute (meshStep mesh) first labels = some state) :
    Run (meshStep mesh) (fun before label => noExpiry before label ∧ noLoss before label)
      first labels state := by
  refine guarded_run_of_execute (MeshState.AtInstant instant)
    (fun label => label.isDeliveryAt instant = true) ?_ ?_ initial ?_ reached
  · intro before label held delivery
    cases label with
    | deliver index now again =>
        simp only [MeshLabel.isDeliveryAt, decide_eq_true_eq] at delivery
        refine ⟨fun copy _ messageId inserted entry => (fresh_iff _ _ _).mpr ?_, trivial⟩
        have positive := (held copy.receiver).1
        have same := (held copy.receiver).2 messageId inserted entry
        omega
    | lose index => simp [MeshLabel.isDeliveryAt] at delivery
  · exact fun _ _ _ held delivery taken => at_instant_step held delivery (mesh_step_moves taken)
  · simpa using deliveries

theorem run_at_instant {instant : Nat} {traffic : List Transmission} {labels : List MeshLabel}
    (initial : (mesh.idle traffic).AtInstant instant)
    (deliveries : labels.all (MeshLabel.isDeliveryAt instant) = true)
    (reached : execute (meshStep mesh) (mesh.idle traffic) labels = some state) :
    Run (meshStep mesh) (fun before label => noExpiry before label ∧ noLoss before label)
      (mesh.idle traffic) labels state :=
  run_at_instant_from initial deliveries reached

end Steps

end Pathweave
