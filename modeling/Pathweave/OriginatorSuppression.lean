import Pathweave.KeyAnnouncements
import Pathweave.MeshDelivery
import Pathweave.StoreConservation

/-!
# Copies that come back to their originator

The originating calls build a frame under a new message id and hand it to every
neighbour, but none of them records the id in the node's own deduplication cache. A
copy that comes back looks new, and source suppression only spares the neighbour it
came from. The originator stays silent as long as what comes back is spent, is
addressed to it, finds nobody else to go to, or finds the id recorded by an earlier
copy. A stored payload is a second source of sends: a drain repeats an attempt that
failed at every neighbour under the same id.
-/

namespace Pathweave

open ByteStrings GuardedRuns Weights

set_option autoImplicit false

/-! ## Attempts of a stored payload -/

section Stored

variable {config : StoreConfig} {state next : StoreState} {label : StoreLabel}
  {messageId : UInt64}

/-- The entry for which a step calls `Router::send`, and the results of the calls. -/
def attemptedNow (config : StoreConfig) (state : StoreState) :
    StoreLabel → Option (Entry × List Bool)
  | .attempt index results =>
      match state.callers[index]? with
      | some { entry := entry, phase := .attempting _, .. } => some (entry, results)
      | _ => none
  | .process index results =>
      match state.drains[index]? with
      | some { batch := some { todo := entry :: _, view := some (now, targets), .. }, .. } =>
          if config.storeTtl < now - entry.queuedAt ∨ targets.isEmpty then none
          else some (entry, results)
      | _ => none
  | _ => none

/-- Every attempt under the id succeeds at some neighbour. -/
def attemptSucceeds (config : StoreConfig) (messageId : UInt64) (state : StoreState)
    (label : StoreLabel) : Prop :=
  ∀ attempt ∈ attemptedNow config state label, attempt.1.msgId = messageId →
    attempt.2.any id = true

def DistinctTargets (targets : List Target) : Prop := (targets.map Prod.fst).Nodup

structure TargetsRead (state : StoreState) : Prop where
  callers : ∀ caller ∈ state.callers, ∀ targets, caller.phase = .attempting targets →
    DistinctTargets targets
  drains : ∀ drain ∈ state.drains, ∀ batch ∈ drain.batch, ∀ view ∈ batch.view,
    DistinctTargets view.2

theorem callers_read_step
    (distinct : ∀ peers dest, DistinctTargets (config.policy.targets peers dest))
    (targetsRead : TargetsRead state) (moved : StoreMove config state label next) :
    ∀ caller ∈ next.callers, ∀ targets, caller.phase = .attempting targets →
      DistinctTargets targets := by
  cases moved with
  | accepted =>
      intro caller member targets phase
      cases List.mem_append.mp member with
      | inl old => exact targetsRead.callers caller old targets phase
      | inr new =>
          rw [List.mem_singleton.mp new] at phase
          cases phase
  | @looked index caller present phase =>
      intro other member targets attempting
      cases List.mem_or_eq_of_mem_set member with
      | inl old => exact targetsRead.callers other old targets attempting
      | inr new =>
          rw [new] at attempting
          dsimp only at attempting
          split_ifs at attempting
          cases attempting
          exact distinct state.peers caller.dest
  | @attempted index caller targets results present phase complete =>
      intro other member otherTargets attempting
      unfold StoreState.attempt at member
      dsimp only at member
      split_ifs at member
      · exact targetsRead.callers other (List.mem_of_mem_eraseIdx member) otherTargets attempting
      · cases List.mem_or_eq_of_mem_set member with
        | inl old => exact targetsRead.callers other old otherTargets attempting
        | inr new =>
            rw [new] at attempting
            cases attempting
  | enqueued present phase =>
      rw [enqueue_callers]
      intro other member targets attempting
      exact targetsRead.callers other (List.mem_of_mem_eraseIdx member) targets attempting
  | took present =>
      rw [(take_frame ..).callers]
      exact targetsRead.callers
  | processed present head read complete =>
      rw [(process_frame ..).callers]
      exact targetsRead.callers
  | finished present done =>
      rw [(finish_frame ..).callers]
      exact targetsRead.callers
  | _ => exact targetsRead.callers

theorem drains_read_step
    (distinct : ∀ peers dest, DistinctTargets (config.policy.targets peers dest))
    (targetsRead : TargetsRead state) (moved : StoreMove config state label next) :
    ∀ drain ∈ next.drains, ∀ batch ∈ drain.batch, ∀ view ∈ batch.view,
      DistinctTargets view.2 := by
  cases moved with
  | attempted present phase complete =>
      rw [(attempt_frame ..).drains]
      exact targetsRead.drains
  | enqueued present phase =>
      rw [(enqueue_frame ..).drains]
      exact targetsRead.drains
  | spawned =>
      intro drain member batch held
      cases List.mem_append.mp member with
      | inl old => exact targetsRead.drains drain old batch held
      | inr new =>
          rw [List.mem_singleton.mp new] at held
          cases held
  | took present =>
      rw [take_drains]
      apply drains_set targetsRead.drains
      intro batch held view read
      obtain ⟨entries, _, same⟩ := Option.map_eq_some_iff.mp held
      rw [← same] at read
      cases read
  | viewed present unread =>
      apply drains_set targetsRead.drains
      intro batch held view read
      cases held
      cases read
      exact distinct _ _
  | @processed index now rest batch targets entry todo results present head read complete =>
      have before := targetsRead.drains _ (List.mem_of_getElem? present) _ rfl
      -- Whether or not the entry failed, the batch keeps its view.
      have kept : ∀ after : Batch, after.view = batch.view →
          ∀ drain ∈ state.drains.set index { rest := rest, batch := some after },
            ∀ batch ∈ drain.batch, ∀ view ∈ batch.view, DistinctTargets view.2 := by
        intro after same
        apply drains_set targetsRead.drains
        intro later held
        cases held
        rw [same]
        exact before
      cases process_drains state _ _ _ _ _ _ _ _ with
      | inl advanced =>
          rw [advanced]
          exact kept _ rfl
      | inr failed =>
          rw [failed]
          exact kept _ rfl
  | finished present done =>
      rw [finish_drains]
      apply drains_set targetsRead.drains
      intro batch held
      cases held
  | retired present =>
      intro drain member
      exact targetsRead.drains drain (List.mem_of_mem_eraseIdx member)
  | _ => exact targetsRead.drains

theorem sent_mono (moved : StoreMove config state label next) {item : Item}
    (sent : item ∈ state.sent) : item ∈ next.sent := by
  cases moved with
  | attempted present phase complete =>
      unfold StoreState.attempt
      dsimp only
      split_ifs
      · exact List.mem_append_left _ sent
      · exact sent
  | enqueued present phase =>
      rw [(enqueue_frame ..).sent]
      exact sent
  | took present =>
      rw [(take_frame ..).sent]
      exact sent
  | processed present head read complete =>
      unfold StoreState.process
      dsimp only
      split_ifs
      · exact sent
      · exact sent
      · exact List.mem_append_left _ sent
      · exact sent
  | finished present done =>
      rw [(finish_frame ..).sent]
      exact sent
  | _ => exact sent

/-- A step calls `Router::send` for nothing, or once per target for one payload that
its caller or a drain still holds. -/
theorem attempted_step (targetsRead : TargetsRead state)
    (moved : StoreMove config state label next) :
    next.sends = state.sends ∨
      ∃ dest entry targets results, attemptedNow config state label = some (entry, results) ∧
        (dest, entry) ∈ state.attempting + state.batched ∧ DistinctTargets targets ∧
        next.sends = state.sends ++ StoreState.attemptSends config dest entry targets ∧
        (results.any id = true → (dest, entry) ∈ next.sent) := by
  cases moved with
  | @attempted index caller targets results present phase complete =>
      apply Or.inr
      apply Exists.intro caller.dest
      apply Exists.intro caller.entry
      apply Exists.intro targets
      apply Exists.intro results
      apply And.intro
      · cases caller
        cases phase
        simp [attemptedNow, present]
      apply And.intro
      · rw [← attempting_left present]
        simp
      apply And.intro (targetsRead.callers caller (List.mem_of_getElem? present) targets phase)
      unfold StoreState.attempt
      dsimp only
      split_ifs with succeeded
      · exact ⟨rfl, fun _ => List.mem_append_right _ (List.mem_singleton_self _)⟩
      · exact ⟨rfl, fun accepted => absurd accepted succeeded⟩
  | enqueued => exact .inl (enqueue_frame ..).sends
  | took => exact .inl (take_frame ..).sends
  | @processed index now rest batch targets entry todo results present head read complete =>
      have left := @batched_lost state index _
        { rest := rest, batch := some { batch with todo := todo } } {(batch.dest, entry)}
        present (by
          simp only [Drain.held, Batch.held, head, items_for_append, items_for_cons]
          abel)
      have holding : (batch.dest, entry) ∈ state.attempting + state.batched := by
        rw [← left]
        simp
      have distinct := targetsRead.drains _ (List.mem_of_getElem? present) _ rfl _ read
      by_cases skipped : config.storeTtl < now - entry.queuedAt ∨ targets.isEmpty
      · apply Or.inl
        unfold StoreState.process
        dsimp only
        split_ifs with expired alone
        · rfl
        · rfl
        all_goals exact absurd skipped (by simp [expired, alone])
      · apply Or.inr
        apply Exists.intro batch.dest
        apply Exists.intro entry
        apply Exists.intro targets
        apply Exists.intro results
        apply And.intro
        · cases batch
          cases head
          cases read
          simp only [attemptedNow, present, if_neg skipped]
        apply And.intro holding
        apply And.intro distinct
        rw [not_or] at skipped
        unfold StoreState.process
        dsimp only
        rw [if_neg skipped.1, if_neg skipped.2]
        split_ifs with succeeded
        · exact ⟨rfl, fun _ => List.mem_append_right _ (List.mem_singleton_self _)⟩
        · exact ⟨rfl, fun accepted => absurd accepted succeeded⟩
  | finished => exact .inl (finish_frame ..).sends
  | _ => exact .inl rfl

def sendsUnder (messageId : UInt64) (state : StoreState) : List RouterSend :=
  (state.sends.filter fun record => record.1.msgId = messageId).map Prod.snd

structure SentOnce (messageId : UInt64) (state : StoreState) : Prop where
  once : ((sendsUnder messageId state).map RouterSend.peerId).Nodup
  settled : ∀ record ∈ state.sends, record.1.msgId = messageId →
    ∃ dest, (dest, record.1) ∈ state.sent

def OwnId (messageId : UInt64) (item : Item) (state : StoreState) : Prop :=
  ∀ other ∈ state.accepted, other.2.msgId = messageId → other = item

theorem held_not_sent (conserved : Conserved state) (numbered : Numbered state) {item : Item}
    (holding : item ∈ state.attempting + state.batched) : item ∉ state.sent := by
  intro sent
  have once : state.held.Nodup := by
    rw [conserved, Multiset.coe_nodup]
    exact accepted_nodup numbered
  have split : state.held = (state.attempting + state.batched + ↑state.sent) +
      (state.queued + ↑state.storeFailed) := by
    unfold StoreState.held
    abel
  rw [split] at once
  have disjoint := (Multiset.nodup_add.mp (Multiset.nodup_add.mp once).1).2.2
  exact Multiset.disjoint_left.mp disjoint holding (Multiset.mem_coe.mpr sent)

theorem sent_once_step {item : Item} (conserved : Conserved state) (numbered : Numbered state)
    (own : OwnId messageId item state) (targetsRead : TargetsRead state)
    (once : SentOnce messageId state) (allowed : attemptSucceeds config messageId state label)
    (moved : StoreMove config state label next) : SentOnce messageId next := by
  have kept : ∀ record ∈ state.sends, record.1.msgId = messageId →
      ∃ dest, (dest, record.1) ∈ next.sent := by
    intro record member same
    obtain ⟨dest, sent⟩ := once.settled record member same
    exact ⟨dest, sent_mono moved sent⟩
  have accepted : ∀ other ∈ state.held, other ∈ state.accepted := by
    intro other held
    rwa [conserved, Multiset.mem_coe] at held
  cases attempted_step targetsRead moved with
  | inl same =>
      constructor
      · unfold sendsUnder
        rw [same]
        exact once.once
      · rw [same]
        exact kept
  | inr attempted =>
      obtain ⟨dest, entry, targets, results, attempt, holding, distinct, appended, finished⟩ :=
        attempted
      by_cases same : entry.msgId = messageId
      · -- The first attempt under the id: an earlier one would have finished the payload.
        have held : (dest, entry) ∈ state.held := by
          unfold StoreState.held
          simp only [Multiset.mem_add] at holding ⊢
          tauto
        have none : ∀ record ∈ state.sends, record.1.msgId ≠ messageId := by
          intro record member earlier
          obtain ⟨other, sent⟩ := once.settled record member earlier
          have otherHeld : (other, record.1) ∈ state.held := by
            unfold StoreState.held
            simp [sent]
          have equal := (own _ (accepted _ otherHeld) earlier).trans
            (own _ (accepted _ held) same).symm
          rw [equal] at sent
          exact held_not_sent conserved numbered holding sent
        have earlier : state.sends.filter (fun record => record.1.msgId = messageId) = [] := by
          apply List.filter_eq_nil_iff.mpr
          intro record member
          simpa using none record member
        have under : sendsUnder messageId next =
            (StoreState.attemptSends config dest entry targets).map Prod.snd := by
          unfold sendsUnder
          rw [appended, List.filter_append, earlier, List.nil_append, List.filter_eq_self.mpr]
          intro record member
          rw [(mem_attempt_sends member).1]
          exact decide_eq_true same
        constructor
        · rw [under, StoreState.attemptSends, List.map_map, List.map_map]
          exact distinct
        · intro record member earlier
          rw [appended] at member
          cases List.mem_append.mp member with
          | inl old => exact kept record old earlier
          | inr new =>
              rw [(mem_attempt_sends new).1]
              exact ⟨dest, finished (allowed _ attempt same)⟩
      · have unrelated : (StoreState.attemptSends config dest entry targets).filter
            (fun record => record.1.msgId = messageId) = [] := by
          apply List.filter_eq_nil_iff.mpr
          intro record member
          rw [(mem_attempt_sends member).1]
          simpa using same
        constructor
        · unfold sendsUnder
          rw [appended, List.filter_append, unrelated, List.append_nil]
          exact once.once
        · intro record member earlier
          rw [appended] at member
          cases List.mem_append.mp member with
          | inl old => exact kept record old earlier
          | inr new =>
              rw [(mem_attempt_sends new).1] at earlier
              exact absurd earlier same

/-- In a run whose attempts under the id succeed, a payload is sent to each
neighbour at most once. -/
theorem stored_sent_once {peers : PeerTable} {labels : List StoreLabel} {item : Item}
    (distinct : ∀ peers dest, DistinctTargets (config.policy.targets peers dest))
    (run : Run (storeStep config) (attemptSucceeds config messageId) (.start peers) labels state)
    (own : OwnId messageId item state) :
    ((sendsUnder messageId state).map RouterSend.peerId).Nodup := by
  have tracked : TargetsRead state ∧ SentOnce messageId state := by
    induction run with
    | start =>
        constructor
        · constructor
          · intro caller member
            cases member
          · intro drain member
            cases member
        · constructor
          · exact List.nodup_nil
          · intro record member
            cases member
    | extend prior allowed taken ih =>
        have moved := store_step_moves taken
        have conserved := run_conserved prior
        have earlier : OwnId messageId item _ :=
          fun other member => own other (accepted_mono moved member)
        obtain ⟨targetsRead, once⟩ := ih earlier
        have read : TargetsRead _ :=
          ⟨callers_read_step distinct targetsRead moved, drains_read_step distinct targetsRead moved⟩
        exact ⟨read,
          sent_once_step conserved.1 conserved.2.1 earlier targetsRead once allowed moved⟩
  exact tracked.2.once

end Stored

/-! ## Originating calls -/

section Originating

variable {prims : Primitives} {node : NodeState prims} {messageId : UInt64}
  {sends : List RouterSend}

/-- The `Router::send` calls with which a node originates a flood: both routed calls,
the flood of a learned key, and a stored payload with all its attempts so far. The
condition is on the steps of the store. -/
inductive Originated (node : NodeState prims) (messageId : UInt64)
    (condition : StoreConfig → StoreState → StoreLabel → Prop) : List RouterSend → Prop where
  | called (call : RoutedCall) (accepted : RouterSend → Bool) (entropy : Octets 8) (dest : PeerId)
      (payload : Bytes) (fresh : newMessageId entropy = messageId) :
      Originated node messageId condition (call.sends node accepted entropy dest payload)
  | announced (entropy : Octets 8) (learnedPeer : PeerId) (learnedKey : PublicKey)
      (fresh : newMessageId entropy = messageId) :
      Originated node messageId condition
        (floodKeyAnnouncement entropy node.peers node.localPeerId learnedPeer learnedKey)
  | stored (config : StoreConfig) (policy : config.policy = routedStore node.localPeerId)
      (peers : PeerTable) (labels : List StoreLabel) (store : StoreState)
      (run : Run (storeStep config) (condition config) (.start peers) labels store) (item : Item)
      (own : OwnId messageId item store) :
      Originated node messageId condition (sendsUnder messageId store)

theorem originated_distinct (accepted : RouterSend → Bool) (body : Bytes) :
    ((floodFromOriginator node accepted messageId body).1.map RouterSend.peerId).Nodup := by
  rw [originated_eq, List.map_map]
  exact neighbors_except_nodup node.peers [node.localPeerId]

theorem called_distinct (call : RoutedCall) (accepted : RouterSend → Bool) (entropy : Octets 8)
    (dest : PeerId) (payload : Bytes) :
    ((call.sends node accepted entropy dest payload).map RouterSend.peerId).Nodup := by
  cases call with
  | plain => exact originated_distinct accepted _
  | endToEnd ephemeral =>
      simp only [RoutedCall.sends, sendRoutedSealed]
      split
      · exact List.nodup_nil
      · split
        · exact List.nodup_nil
        · exact originated_distinct accepted _

theorem routed_store_distinct (localPeer : PeerId) (peers : PeerTable) (dest : PeerId) :
    DistinctTargets ((routedStore localPeer).targets peers dest) :=
  neighbors_except_nodup peers [localPeer]

theorem originated_sends_distinct
    (originated : Originated node messageId (fun config => attemptSucceeds config messageId) sends) :
    (sends.map RouterSend.peerId).Nodup := by
  cases originated with
  | called call accepted entropy dest payload fresh =>
      exact called_distinct call accepted entropy dest payload
  | announced entropy learnedPeer learnedKey fresh =>
      unfold floodKeyAnnouncement spawnRelayToNeighbors
      rw [List.map_map]
      exact neighbors_except_nodup node.peers [learnedPeer, node.localPeerId]
  | stored config policy peers labels store run item own =>
      apply stored_sent_once _ run own
      rw [policy]
      exact routed_store_distinct node.localPeerId

end Originating

/-! ## Copies that return -/

section Returns

variable {prims : Primitives} {mesh : Mesh prims} {state next : MeshState prims}
  {label : MeshLabel} {originator : PeerId} {messageId : UInt64}

/-- A returning copy that the originator does not relay: it is spent, addressed to the
originator, no longer new there, or has nobody to go to but the peer it came from. -/
def ReturnIgnored (originator : PeerId) (messageId : UInt64) (state : MeshState prims)
    (copy : Transmission) : Prop :=
  ∀ content ttl, parseFrame copy.frame = .routed messageId content ttl →
    clampTtl ttl = 0 ∨ content.destination = some originator ∨
      (state.nodes originator).hasSeen messageId ∨
      ∀ peer ∈ (state.nodes originator).peers, peer = copy.sender ∨ peer = originator

def returnsIgnored (originator : PeerId) (messageId : UInt64) (state : MeshState prims) :
    MeshLabel → Prop
  | .deliver index _ _ => ∀ copy, state.inFlight[index]? = some copy →
      copy.receiver = originator → ReturnIgnored originator messageId state copy
  | .lose _ => True

def SilentFor (originator : PeerId) (messageId : UInt64) (entry : Dispatched) : Prop :=
  entry.node = originator → entry.relaysFor messageId = false ∧
    ∀ send ∈ entry.relays, send.messageId ≠ messageId

theorem ignored_return_silent {copy : Transmission} {now : Nat} (same : mesh.SameSettings state)
    (member : originator ∈ mesh.members) (here : copy.receiver = originator)
    (unexpired : (state.nodes originator).Unexpired now)
    (ignored : ReturnIgnored originator messageId state copy) {content : Routed} {ttl : UInt8}
    (parsed : parseFrame copy.frame = .routed messageId content ttl) :
    (state.outcome now copy).relays = [] := by
  subst here
  have place := same.local_peer member
  have effect := routed_outcome_effect (state.nodes copy.receiver) copy.sender now messageId content
    ttl unexpired
  unfold MeshState.outcome
  rw [parsed]
  simp only [frameOutcome]
  generalize routedOutcome (state.nodes copy.receiver) copy.sender now messageId content ttl =
    outcome at effect ⊢
  cases effect with
  | ignored why => rfl
  | arrived genuine arrives new => rfl
  | passed genuine elsewhere alive new =>
      apply List.eq_nil_iff_forall_not_mem.mpr
      intro send sent
      obtain ⟨unspent, body, sameId, known, notSender, notLocal⟩ := mem_relays sent
      rw [place] at notLocal elsewhere
      cases ignored content ttl parsed with
      | inl spent => exact unspent spent
      | inr others =>
          cases others with
          | inl addressed => exact elsewhere addressed
          | inr rest =>
              cases rest with
              | inl seen => exact new seen
              | inr alone => exact (alone send.peerId known).elim notSender notLocal

theorem silent_step (same : mesh.SameSettings state) (member : originator ∈ mesh.members)
    (unexpired : noExpiry state label) (ignored : returnsIgnored originator messageId state label)
    (held : ∀ entry ∈ state.history, SilentFor originator messageId entry)
    (moved : MeshMove mesh state label next) :
    ∀ entry ∈ next.history, SilentFor originator messageId entry := by
  cases moved with
  | @delivered index now again copy present receiver budget =>
      intro entry listed
      cases List.mem_append.mp listed with
      | inl old => exact held entry old
      | inr new =>
          rw [List.mem_singleton.mp new]
          intro here
          have quiet : ∀ content ttl, parseFrame copy.frame = .routed messageId content ttl →
              (state.outcome now copy).relays = [] := by
            intro content ttl parsed
            exact ignored_return_silent same member here (here ▸ unexpired copy present)
              (ignored copy present here) parsed
          have others : ∀ send ∈ (state.outcome now copy).relays, send.messageId ≠ messageId := by
            intro send sent own
            obtain ⟨ownId, content, ttl, parsed, relayed⟩ := frame_outcome_relays sent
            have sameId := (mem_relays relayed).2.2.1
            rw [own] at sameId
            subst sameId
            rw [quiet content ttl parsed] at sent
            cases sent
          apply And.intro _ others
          cases parsed : parseFrame copy.frame with
          | routed ownId content ttl =>
              by_cases own : ownId = messageId
              · subst own
                simp [Dispatched.relaysFor, quiet content ttl parsed]
              · simp [Dispatched.relaysFor, parsed, Frame.floodId, own]
          | direct ownId payload => simp [Dispatched.relaysFor, parsed, Frame.floodId]
          | skipped => simp [Dispatched.relaysFor, parsed, Frame.floodId]
  | lost inside => exact held

end Returns

/-- All calls of `Router::send` that the originator makes under the id: those of the
originating call and its relays. -/
def originatorSends (originator : PeerId) (messageId : UInt64) (sends : List RouterSend)
    (history : List Dispatched) : List RouterSend :=
  (sends ++ (history.filter fun entry => entry.node = originator).flatMap Dispatched.relays).filter
    fun send => send.messageId = messageId

/-- The originator relays no copy of its own flood and sends to no neighbour twice. -/
def SendsOnce (originator : PeerId) (messageId : UInt64) (sends : List RouterSend)
    (history : List Dispatched) : Prop :=
  (∀ entry ∈ history, entry.node = originator → entry.relaysFor messageId = false) ∧
    ((originatorSends originator messageId sends history).map RouterSend.peerId).Nodup

def traffic {prims : Primitives} (mesh : Mesh prims) (originator : PeerId)
    (sends : List RouterSend) (others : List Transmission) : List Transmission :=
  sends.map (transmit mesh.retries originator []) ++ others

theorem originator_sends_once {prims : Primitives} {mesh : Mesh prims} {originator : PeerId}
    (member : originator ∈ mesh.members) {messageId : UInt64} {sends : List RouterSend}
    (originated : Originated (mesh.nodes originator) messageId
      (fun config => attemptSucceeds config messageId) sends)
    {others : List Transmission} {labels : List MeshLabel} {state : MeshState prims}
    (run : Run (meshStep mesh)
      (fun state label => noExpiry state label ∧ returnsIgnored originator messageId state label)
      (mesh.idle (traffic mesh originator sends others)) labels state) :
    SendsOnce originator messageId sends state.history := by
  have tracked : mesh.SameSettings state ∧
      ∀ entry ∈ state.history, SilentFor originator messageId entry := by
    apply run_invariant (fun state => mesh.SameSettings state ∧
      ∀ entry ∈ state.history, SilentFor originator messageId entry) _ run
    · exact ⟨same_settings_idle _, by intro entry listed; cases listed⟩
    · intro before label after held allowed taken
      have moved := mesh_step_moves taken
      exact ⟨same_settings_step held.1 moved,
        silent_step held.1 member allowed.1 allowed.2 held.2 moved⟩
  constructor
  · intro entry listed here
    exact (tracked.2 entry listed here).1
  · have relayed : ((state.history.filter fun entry => entry.node = originator).flatMap
        Dispatched.relays).filter (fun send => send.messageId = messageId) = [] := by
      apply List.filter_eq_nil_iff.mpr
      intro send sent
      obtain ⟨entry, listed, relay⟩ := List.mem_flatMap.mp sent
      rw [List.mem_filter, decide_eq_true_iff] at listed
      simpa using (tracked.2 entry listed.1 listed.2).2 send relay
    rw [originatorSends, List.filter_append, relayed, List.append_nil]
    exact (originated_sends_distinct originated).sublist (List.Sublist.map _ List.filter_sublist)

/-! ## Sample meshes -/

def strayCall (mesh : Mesh clearPrimitives) : List RouterSend :=
  RoutedCall.sends (mesh.nodes (samplePeer 1)) (fun _ => true) sampleEntropy (samplePeer 8) [42]
    .plain

theorem stray_call_originated (mesh : Mesh clearPrimitives)
    (condition : StoreConfig → StoreState → StoreLabel → Prop) :
    Originated (mesh.nodes (samplePeer 1)) (newMessageId sampleEntropy) condition
      (strayCall mesh) :=
  .called .plain _ _ _ _ rfl

def neverReturns (originator : PeerId) (state : MeshState clearPrimitives) : MeshLabel → Prop
  | .deliver index _ _ => (state.inFlight[index]?).all (fun copy => copy.receiver ≠ originator) = true
  | .lose _ => True

instance (originator : PeerId) (state : MeshState clearPrimitives) (label : MeshLabel) :
    Decidable (neverReturns originator state label) :=
  match label with
  | .deliver _ _ _ => inferInstanceAs (Decidable (_ = true))
  | .lose _ => isTrue trivial

theorem returns_ignored_of_never {originator : PeerId} {messageId : UInt64}
    {state : MeshState clearPrimitives} {label : MeshLabel}
    (never : neverReturns originator state label) :
    returnsIgnored originator messageId state label := by
  cases label with
  | deliver index now again =>
      intro copy present here
      simp [neverReturns, present, here] at never
  | lose index => trivial

def lineMesh : Mesh clearPrimitives := sampleMesh [1, 2, 3] [(1, 2), (2, 3)]

/-- On a line nothing comes back: peer 2 relays to peer 3, which knows nobody else. -/
theorem originator_sends_once_on_line :
    ∃ state, execute (meshStep lineMesh)
        (lineMesh.idle (traffic lineMesh (samplePeer 1) (strayCall lineMesh) []))
        [.deliver 0 0 false, .deliver 0 0 false] = some state ∧
      state.history.map Dispatched.node = [samplePeer 2, samplePeer 3] ∧
      SendsOnce (samplePeer 1) (newMessageId sampleEntropy) (strayCall lineMesh)
        state.history := by
  have finished : ((execute (fun state label =>
      if neverReturns (samplePeer 1) state label then meshStep lineMesh state label else none)
        (lineMesh.idle (traffic lineMesh (samplePeer 1) (strayCall lineMesh) []))
        [.deliver 0 0 false, .deliver 0 0 false]).map fun state =>
          state.history.map Dispatched.node) = some [samplePeer 2, samplePeer 3] := by
    decide +kernel
  obtain ⟨state, reached, found⟩ := Option.map_eq_some_iff.mp finished
  have away := run_of_execute_guarded reached
  have executed := execute_of_run away
  have timed := run_at_instant (sample_at_instant _ _ _) (by decide) executed
  have both := (run_and timed away).2
  apply Exists.intro state
  apply And.intro executed
  apply And.intro found
  apply originator_sends_once (by decide) (stray_call_originated lineMesh _)
  exact run_weaken (fun _ _ allowed => ⟨allowed.1.1, returns_ignored_of_never allowed.2⟩) both

def AlwaysSendsOnce : Prop :=
  ∀ (prims : Primitives) (mesh : Mesh prims) (originator : PeerId) (messageId : UInt64)
    (sends : List RouterSend) (labels : List MeshLabel) (state : MeshState prims),
    originator ∈ mesh.members →
    Originated (mesh.nodes originator) messageId (fun _ => anyStep) sends →
    Run (meshStep mesh) noExpiry (mesh.idle (traffic mesh originator sends [])) labels state →
    SendsOnce originator messageId sends state.history

/-- Peer 1 floods a triangle. Peer 3 hears of it from peer 2 first and relays to
peer 1, which relays to peer 2. -/
def returnOrder : List MeshLabel :=
  [.deliver 0 0 false, .deliver 1 0 false, .deliver 1 0 false]

theorem originator_relays_own_flood : ¬AlwaysSendsOnce := by
  intro always
  have finished : ((execute (meshStep triangle)
      (triangle.idle (traffic triangle (samplePeer 1) (strayCall triangle) [])) returnOrder).map
        fun state => (originatorSends (samplePeer 1) (newMessageId sampleEntropy)
          (strayCall triangle) state.history).map RouterSend.peerId) =
      some [samplePeer 2, samplePeer 3, samplePeer 2] := by
    decide +kernel
  obtain ⟨state, reached, found⟩ := Option.map_eq_some_iff.mp finished
  have timed := run_at_instant (sample_at_instant _ _ _) (by decide) reached
  have once := (always _ triangle (samplePeer 1) _ _ _ state (by decide)
    (stray_call_originated triangle _) (run_weaken (fun _ _ allowed => allowed.1) timed)).2
  rw [found] at once
  simp at once

end Pathweave
