import Pathweave.SealedDelivery

/-!
# Copies that suppress a sealed frame

The destination of a sealed frame checks the id before it opens the frame, unlike
the announcement branch, which validates first. A tampered copy, or one that comes
before the sender's key, is therefore enough to have the genuine frame ignored for
the length of the dedup window. Frames with the same id are safe only while each one
that takes the id is also delivered.
-/

namespace Pathweave

open ByteStrings GuardedRuns

set_option autoImplicit false

variable {prims : Primitives}

/-! ## Which copy takes the id -/

/-- Somebody with one key to their name sealed the payload to this node. -/
def GenuinelySealed (dest : NodeIdentity prims) (sealedSender : PeerId)
    (payload noiseMessage : Bytes) : Prop :=
  ∃ (sender : NodeIdentity prims) (ephemeral : Bytes), sender.peerId = sealedSender ∧
    sender.KeyUnique ∧
    prims.noiseKWrite sender.privateKey dest.publicKey ephemeral payload = .ok noiseMessage

def NodeWorld.UndeliveredAt (state : NodeWorld prims) (messageId : UInt64) (now : Nat) : Prop :=
  ∀ record ∈ state.dispatched, (parseFrame record.payload).messageId = some messageId →
    record.delivered.isSome → record.time + state.node.dedup.ttl ≤ now

/-- A genuine sealed frame whose sender's key is known is opened and delivered by a
node with a handler, if no frame with its id was delivered within the window. -/
def DeliversGenuine (messageId : UInt64) (state : NodeWorld prims) : Prop :=
  ∀ (index now : Nat) (frame payload noiseMessage : Bytes) (sealedSender : PeerId) (ttl : UInt8)
    (task : Task prims) (session : Session prims) (next : NodeWorld prims),
    nodeStep state (.receive index frame now) = some next →
    state.tasks[index]? = some task → task.serves frame = some session →
    parseFrame frame = .routed messageId
      (.sealedMessage state.node.localPeerId sealedSender noiseMessage) ttl →
    GenuinelySealed state.node.identity sealedSender payload noiseMessage →
    (state.node.keyRegistry.get sealedSender).isSome → state.node.handlerRegistered = true →
    state.UndeliveredAt messageId now →
    (next.dispatched.getLast?.bind DispatchRecord.delivered) = some (sealedSender, payload)

/-- The frame finds no live entry for the id and leaves one without reaching the
handler: it is for somebody else, teaches a key, or does not open. -/
def takesIdUndelivered (node : NodeState prims) (sender : PeerId) (now : Nat)
    (messageId : UInt64) : Frame → Bool
  | .routed ownId content ttl =>
      ownId == messageId && !(node.dedup.checkAndInsertRouted now messageId).1 &&
        content.genuine prims &&
        (content.destination == some node.localPeerId || !content.dropped ttl) &&
        !(content.destination == some node.localPeerId &&
          (deliverContent node sender content).isSome)
  | _ => false

def idKeptForHandler (messageId : UInt64) (state : NodeWorld prims) : NodeLabel → Prop
  | .receive index payload now =>
      ∀ session ∈ (state.tasks[index]?).bind (Task.serves payload),
        takesIdUndelivered state.node session.peerId now messageId (parseFrame payload) = false
  | _ => True

instance (messageId : UInt64) (state : NodeWorld prims) (label : NodeLabel) :
    Decidable (idKeptForHandler messageId state label) :=
  match label with
  | .receive index payload now =>
      inferInstanceAs (Decidable (∀ session ∈ (state.tasks[index]?).bind (Task.serves payload),
        takesIdUndelivered state.node session.peerId now messageId (parseFrame payload) = false))
  | .onMessage | .call .. | .connect .. | .addPeer .. | .arrival .. | .departure .. | .accept ..
  | .unreachable .. | .handshake .. | .exchange .. | .delivery .. | .proceed .. | .close .. =>
      .isTrue trivial

def EntryDelivered (messageId : UInt64) (state : NodeWorld prims) : Prop :=
  ∀ inserted, state.node.dedup.seenRouted messageId = some inserted →
    inserted ≤ state.clock ∧
      ∃ record ∈ state.dispatched, (parseFrame record.payload).messageId = some messageId ∧
        record.delivered.isSome ∧ record.time = inserted

section Suppression

variable {messageId : UInt64}

theorem deliver_content_dedup (node : NodeState prims) (dedup : DeduplicationCache)
    (sender : PeerId) (content : Routed) :
    deliverContent { node with dedup := dedup } sender content =
      deliverContent node sender content := by
  cases content <;> rfl

theorem frame_outcome_recorded {node : NodeState prims} {sender : PeerId} {now : Nat}
    {frame : Frame} {inserted : Nat}
    (entry : (frameOutcome node sender now frame).node.dedup.seenRouted messageId =
      some inserted) :
    node.dedup.seenRouted messageId = some inserted ∨
      (inserted = now ∧ frame.messageId = some messageId ∧
        (takesIdUndelivered node sender now messageId frame = true ∨
          (frameOutcome node sender now frame).delivered.isSome)) := by
  cases frame with
  | direct ownId payload =>
      rw [direct_outcome_dedup] at entry
      exact .inl entry
  | skipped => exact .inl entry
  | routed ownId content ttl =>
      have checked : (node.dedup.checkAndInsertRouted now ownId).2.seenRouted messageId =
          some inserted → node.dedup.seenRouted messageId = some inserted ∨
            (inserted = now ∧ messageId = ownId ∧
              (node.dedup.checkAndInsertRouted now ownId).1 = false) := check_entry
      simp only [frameOutcome, routedOutcome] at entry ⊢
      split_ifs at entry ⊢ with forged here duplicate spent duplicate
      · exact .inl entry
      · rcases checked entry with old | ⟨-, -, first⟩
        · exact .inl old
        · rw [duplicate] at first
          cases first
      · rcases checked entry with old | ⟨now_eq, rfl, first⟩
        · exact .inl old
        · refine .inr ⟨now_eq, rfl, ?_⟩
          simp only [deliver_content_dedup]
          cases invoked : deliverContent node sender content with
          | none =>
              refine .inl ?_
              simp [takesIdUndelivered, first, here, invoked, forged]
          | some call => exact .inr rfl
      · exact .inl entry
      · rcases checked entry with old | ⟨-, -, first⟩
        · exact .inl old
        · rw [duplicate] at first
          cases first
      · have recorded : node.dedup.seenRouted messageId = some inserted ∨
            (inserted = now ∧ messageId = ownId ∧
              (node.dedup.checkAndInsertRouted now ownId).1 = false) := by
          apply checked
          cases content <;> exact entry
        rcases recorded with old | ⟨now_eq, rfl, first⟩
        · exact .inl old
        · refine .inr ⟨now_eq, rfl, .inl ?_⟩
          simp [takesIdUndelivered, first, here, spent, forged]

theorem entry_delivered_step {state next : NodeWorld prims} {label : NodeLabel}
    (held : EntryDelivered messageId state) (allowed : idKeptForHandler messageId state label)
    (taken : nodeStep state label = some next) : EntryDelivered messageId next := by
  intro inserted entry
  cases node_move_dispatch (node_step_moves taken) with
  | quiet history cache clock =>
      rw [cache] at entry
      rw [history, clock]
      exact held inserted entry
  | dispatch index payload now task session received present serves later clock node history =>
      rw [node] at entry
      rw [history, clock]
      rcases frame_outcome_recorded entry with old | ⟨rfl, identified, undelivered | delivered⟩
      · rcases held inserted old with ⟨past, record, listed, found⟩
        exact ⟨Nat.le_trans past later, record, List.mem_append_left _ listed, found⟩
      · subst received
        have kept := allowed session (by simp [present, serves])
        rw [kept] at undelivered
        cases undelivered
      · exact ⟨Nat.le_refl _, _, List.mem_append_right _ (List.mem_singleton_self _), identified,
          delivered, rfl⟩

theorem served_step {state next : NodeWorld prims} {index now : Nat} {payload : Bytes}
    {task : Task prims} {session : Session prims}
    (taken : nodeStep state (.receive index payload now) = some next)
    (present : state.tasks[index]? = some task) (serves : task.serves payload = some session) :
    state.clock ≤ now ∧ (next.dispatched.getLast?.bind DispatchRecord.delivered) =
      (frameOutcome state.node session.peerId now (parseFrame payload)).delivered := by
  have stepped : dispatchStep state index session payload now = some next := by
    simp only [nodeStep, present, Option.bind_some] at taken
    cases task with
    | awaitingFirst own =>
        simp only [Task.serves] at serves
        split_ifs at serves with control
        cases serves
        rwa [receiveStep, if_neg control] at taken
    | serving own =>
        cases serves
        exact taken
    | _ => cases serves
  unfold dispatchStep at stepped
  rw [dispatch_payload_eq] at stepped
  split_ifs at stepped with early
  cases stepped
  apply And.intro (Nat.le_of_not_lt early)
  simp

theorem sealed_outcome_first {node : NodeState prims} {sender sealedSender : PeerId} {now : Nat}
    {noiseMessage : Bytes} {ttl : UInt8}
    (first : (node.dedup.checkAndInsertRouted now messageId).1 = false) :
    (frameOutcome node sender now (.routed messageId
      (.sealedMessage node.localPeerId sealedSender noiseMessage) ttl)).delivered =
        openSealed node sealedSender noiseMessage := by
  simp only [frameOutcome, routedOutcome, Routed.genuine, Routed.destination, first]
  rfl

theorem open_genuine {node : NodeState prims} {sealedSender : PeerId}
    {payload noiseMessage : Bytes} (opens : UnsealUndoesSeal prims)
    (bound : KeyRegistryState.Bound prims node.keyRegistry)
    (genuine : GenuinelySealed node.identity sealedSender payload noiseMessage)
    (known : (node.keyRegistry.get sealedSender).isSome)
    (handler : node.handlerRegistered = true) :
    openSealed node sealedSender noiseMessage = some (sealedSender, payload) := by
  rcases genuine with ⟨sender, ephemeral, rfl, unique, written⟩
  obtain ⟨key, listed⟩ := Option.isSome_iff_exists.mp known
  have own : key = sender.publicKey := key_of_bound bound unique listed
  have read := opens sender node.identity ephemeral payload noiseMessage written
  simp [openSealed, listed, own, unsealPayload, read, NodeState.onMessage, handler]

/-- In every run in which each frame that takes the id is delivered, a genuine frame
with that id is not suppressed. -/
theorem genuine_sealed_frame_delivered {identity : NodeIdentity prims} {peers : PeerTable}
    {maxKeyRegistrySize : Option Nat} {labels : List NodeLabel} {state : NodeWorld prims}
    (opens : UnsealUndoesSeal prims)
    (run : Run nodeStep (idKeptForHandler messageId) (.start identity peers maxKeyRegistrySize)
      labels state) :
    DeliversGenuine messageId state := by
  have held : EntryDelivered messageId state := by
    apply run_invariant (EntryDelivered messageId) _ run
    · intro inserted entry
      cases entry
    · intro before label after held allowed taken
      exact entry_delivered_step held allowed taken
  have bound := bound_run run (KeyRegistryState.bound_empty maxKeyRegistrySize)
  intro index now frame payload noiseMessage sealedSender ttl task session next taken present
    serves parsed genuine known handler undelivered
  rcases served_step taken present serves with ⟨later, invoked⟩
  have first : (state.node.dedup.checkAndInsertRouted now messageId).1 = false := by
    by_contra duplicate
    rw [Bool.not_eq_false] at duplicate
    rcases check_found duplicate with ⟨inserted, entry, live⟩
    rcases held inserted entry with ⟨past, record, listed, identified, delivered, rfl⟩
    have expired := undelivered record listed identified delivered
    rcases (fresh_iff _ _ _).mp live with future | recent
    · exact absurd (Nat.le_trans past later) (Nat.not_le_of_lt future)
    · exact absurd expired (Nat.not_le_of_lt recent)
  rw [invoked, parsed, sealed_outcome_first first]
  exact open_genuine opens bound genuine known handler

end Suppression

/-! ## A second delivery after the window, and a suppressed first one -/

theorem tagged_genuine (dest : NodeIdentity taggedPrimitives) (own : dest = taggedIdentity 1) :
    GenuinelySealed dest (samplePeer 2) [42]
      ((samplePeer 2).asBytes ++ (samplePeer 1).asBytes ++ [42]) := by
  subst own
  refine ⟨taggedIdentity 2, [], rfl, ?_, rfl⟩
  intro key same
  exact tagged_peer_id_injective (same.symm.trans (taggedIdentity 2).hashed)

theorem genuine_frame_parses (localPeer : PeerId) (own : localPeer = samplePeer 1) :
    parseFrame genuineFrame = .routed (newMessageId sampleEntropy)
      (.sealedMessage localPeer (samplePeer 2)
        ((samplePeer 2).asBytes ++ (samplePeer 1).asBytes ++ [42])) 3 := by
  subst own
  decide +kernel

theorem genuine_sealed_frame_delivered_again :
    ∃ state next, Run nodeStep (idKeptForHandler (newMessageId sampleEntropy)) taggedNode
        (sealedArrival [genuineFrame]) state ∧
      nodeStep state (.receive 0 genuineFrame (seconds 61)) = some next ∧
      (next.dispatched.getLast?.bind DispatchRecord.delivered) = some (samplePeer 2, [42]) := by
  have finished : ((execute (fun state label =>
      if idKeptForHandler (newMessageId sampleEntropy) state label then nodeStep state label
      else none) taggedNode (sealedArrival [genuineFrame])).map fun state =>
        ((nodeStep state (.receive 0 genuineFrame (seconds 61))).isSome,
          ((state.tasks[0]?).bind (Task.serves genuineFrame)).isSome,
          (state.node.keyRegistry.get (samplePeer 2)).isSome, state.node.handlerRegistered,
          state.dispatched.all fun record => record.time + state.node.dedup.ttl ≤ seconds 61)) =
      some (true, true, true, true, true) := by
    decide +kernel
  obtain ⟨state, reached, found⟩ := Option.map_eq_some_iff.mp finished
  simp only [Prod.mk.injEq, List.all_eq_true, decide_eq_true_eq] at found
  rcases found with ⟨stepped, served, known, handler, old⟩
  obtain ⟨next, taken⟩ := Option.isSome_iff_exists.mp stepped
  obtain ⟨session, serves⟩ := Option.isSome_iff_exists.mp served
  obtain ⟨task, present, serves⟩ := Option.bind_eq_some_iff.mp serves
  have run := run_of_execute_guarded reached
  have own : state.node.identity = taggedIdentity 1 := identity_run run
  refine ⟨state, next, run, taken, ?_⟩
  exact genuine_sealed_frame_delivered tagged_unseal_undoes_seal run 0 (seconds 61) genuineFrame
    [42] _ (samplePeer 2) 3 task session next taken present serves
    (genuine_frame_parses _ (congrArg NodeIdentity.peerId own)) (tagged_genuine _ own) known handler
    fun record listed _ _ => old record listed

def NeverSuppressed : Prop :=
  ∀ (prims : Primitives) (identity : NodeIdentity prims) (peers : PeerTable)
    (maxKeyRegistrySize : Option Nat) (labels : List NodeLabel) (state : NodeWorld prims)
    (messageId : UInt64), UnsealUndoesSeal prims →
    Run nodeStep anyStep (.start identity peers maxKeyRegistrySize) labels state →
    DeliversGenuine messageId state

theorem tampered_copy_suppresses : ¬ NeverSuppressed := by
  intro never
  have finished : ((execute nodeStep taggedNode (sealedArrival [tamperedFrame])).map fun state =>
        ((nodeStep state (.receive 0 genuineFrame 1)).map fun next =>
            next.dispatched.getLast?.bind DispatchRecord.delivered,
          ((state.tasks[0]?).bind (Task.serves genuineFrame)).isSome,
          (state.node.keyRegistry.get (samplePeer 2)).isSome, state.node.handlerRegistered,
          state.dispatched.all fun record => record.delivered.isNone)) =
      some (some none, true, true, true, true) := by
    decide +kernel
  obtain ⟨state, reached, found⟩ := Option.map_eq_some_iff.mp finished
  simp only [Prod.mk.injEq, List.all_eq_true] at found
  rcases found with ⟨stepped, served, known, handler, undelivered⟩
  obtain ⟨next, taken, ignored⟩ := Option.map_eq_some_iff.mp stepped
  obtain ⟨session, serves⟩ := Option.isSome_iff_exists.mp served
  obtain ⟨task, present, serves⟩ := Option.bind_eq_some_iff.mp serves
  have run : Run nodeStep anyStep taggedNode (sealedArrival [tamperedFrame]) state :=
    run_of_execute reached
  have own : state.node.identity = taggedIdentity 1 := identity_run run
  have delivered := never taggedPrimitives (taggedIdentity 1) ∅ none _ state
    (newMessageId sampleEntropy) tagged_unseal_undoes_seal run 0 1 genuineFrame [42] _
    (samplePeer 2) 3 task session next taken present serves
    (genuine_frame_parses _ (congrArg NodeIdentity.peerId own)) (tagged_genuine _ own) known handler
    (by
      intro record listed _ called
      rw [Option.isNone_iff_eq_none.mp (undelivered record listed)] at called
      cases called)
  rw [ignored] at delivered
  cases delivered

end Pathweave
