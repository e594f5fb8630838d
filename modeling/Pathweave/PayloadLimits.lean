import Pathweave.RouterConnect
import Pathweave.StoreConservation

/-!
# How long a payload may be

A session refuses a plaintext that does not fit a Noise message. `try_send` finds out when
it has dialled, shaken hands and exchanged addresses, so an oversized payload costs as many
tries as one that nobody answers, and a stored one costs them at every drain. Here is the
exact limit, and that nothing beyond it ever leaves, from a call or from the store.
-/

namespace Pathweave

open ByteStrings GuardedRuns

set_option autoImplicit false

variable {prims : Primitives}

theorem fits_session_iff (messageId : UInt64) (body : Bytes) :
    fitsSession (frameMessage messageId body) = true ↔ body.length ≤ 65511 := by
  simp [fitsSession, noiseMsgMax]
  omega

/-! ## Calls -/

/-- No frame has been dispatched at the other end, and no event has fired at the caller. -/
structure Unheard (state after : CallState prims) : Prop where
  receiver : after.receiver = state.receiver
  handled : after.handled = state.handled
  events : after.events = state.events

section Oversized

variable {call : SendCall} {plan : DialPlan} {tries : Nat → TimedAttempt}

theorem unheard_trans {first second third : CallState prims} (earlier : Unheard first second)
    (later : Unheard second third) : Unheard first third :=
  ⟨later.receiver.trans earlier.receiver, later.handled.trans earlier.handled,
    later.events.trans earlier.events⟩

theorem oversized_outcome (prims : Primitives) (large : fitsSession call.frame = false)
    (keyRegistry : KeyRegistryState) (peers : PeerTable) (attempt : Attempt) :
    ∃ outcome error, trySend prims keyRegistry peers call.peerId call.payload call.messageId
        attempt = .ok outcome ∧ outcome.transmitted = none ∧ outcome.result = .error error := by
  cases connected : attempt.connect with
  | error error =>
      refine ⟨withoutSession peers keyRegistry error, error, ?_, rfl, rfl⟩
      simp only [trySend, connected]
  | ok remote =>
      cases refusal : remote.refusal (keyRegistry.get call.peerId) with
      | some failure => exact ⟨_, _, try_send_refused connected refusal, rfl, rfl⟩
      | none =>
          obtain ⟨exchanged, decoded⟩ := decode_reply_total attempt.exchangeReply
          have refused : sessionSend attempt.frameLink
              (frameMessage call.messageId call.payload) = .error (.session "input error") := by
            unfold sessionSend
            rw [show fitsSession (frameMessage call.messageId call.payload) = false from large]
            rfl
          refine ⟨_, .session "input error", (try_send_over_session connected refusal).trans
            (by rw [overSession, decoded, checked_bind_ok]), ?_, ?_⟩
          · simp only [sessionOutcome, sentBytes, refused]
          · simp only [sessionOutcome, refused]

theorem oversized_try (large : fitsSession call.frame = false) (state : CallState prims) :
    (tryOnce call tries state).2 = false ∧ Unheard state (tryOnce call tries state).1 := by
  obtain ⟨outcome, error, tried, silent, failed⟩ := oversized_outcome prims large
    state.keyRegistry state.peers (tries state.tries).attempt
  simp only [tryOnce, tried, silent, failed]
  exact ⟨rfl, rfl, rfl, List.append_nil _⟩

theorem oversized_candidates (large : fitsSession call.frame = false)
    (candidates : List (TransportEntry × PeerAnnouncement)) (state : CallState prims) :
    (tryCandidates call tries candidates state).2 = false ∧
      Unheard state (tryCandidates call tries candidates state).1 := by
  induction candidates generalizing state with
  | nil => exact ⟨rfl, rfl, rfl, rfl⟩
  | cons candidate rest ih =>
      obtain ⟨failed, unheard⟩ := @oversized_try _ _ tries large state
      rw [tryCandidates]
      split
      · next after success =>
          rw [success] at failed
          cases failed
      · next after failure =>
          rw [failure] at unheard
          obtain ⟨again, later⟩ := ih after
          exact ⟨again, unheard_trans unheard later⟩

theorem oversized_passes (large : fitsSession call.frame = false) (left attempt : Nat)
    (state : CallState prims) :
    ∃ error, (sendPasses plan call tries left attempt state).2 = .error error ∧
      Unheard state (sendPasses plan call tries left attempt state).1 := by
  induction left generalizing attempt state with
  | zero => exact ⟨_, rfl, rfl, rfl, rfl⟩
  | succ left ih =>
      rw [sendPasses]
      by_cases none : (plan.candidatesAt attempt).isEmpty = true
      · rw [if_pos none]
        exact ⟨_, rfl, rfl, rfl, rfl⟩
      · rw [if_neg none]
        obtain ⟨failed, unheard⟩ :=
          @oversized_candidates _ _ tries large (plan.candidatesAt attempt) state
        split
        · next after success =>
            rw [success] at failed
            cases failed
        · next after failure =>
            rw [failure] at unheard
            obtain ⟨error, ended, later⟩ := ih (attempt + 1)
              (if left = 0 then after else { after with clock := after.clock + retryBackoff })
            refine ⟨error, ended, unheard_trans (unheard_trans unheard ?_) later⟩
            split_ifs <;> exact ⟨rfl, rfl, rfl⟩

theorem oversized_send (large : fitsSession call.frame = false) (state : CallState prims) :
    ∃ error, (routerSend plan call tries state).2 = .error error ∧
      Unheard state (routerSend plan call tries state).1 := by
  rw [routerSend]
  split_ifs with available
  · exact oversized_passes large _ _ state
  · exact ⟨_, rfl, rfl, rfl, rfl⟩

end Oversized

/-- `Router::send` can return `Ok` for the call, given the right transports and answers. -/
def Sendable (prims : Primitives) (call : SendCall) : Prop :=
  ∃ (plan : DialPlan) (tries : Nat → TimedAttempt) (state : CallState prims),
    (routerSend plan call tries state).2 = .ok ()

theorem sendable_fits {call : SendCall} (sendable : Sendable prims call) :
    fitsSession call.frame = true := by
  obtain ⟨plan, tries, state, sent⟩ := sendable
  by_contra large
  obtain ⟨error, failed, -⟩ := @oversized_send _ _ plan tries (by simpa using large) state
  rw [failed] at sent
  cases sent

def openPlan : DialPlan where
  announcements := [peripheralAnnouncement]
  initially := [peripheralTransport]
  transports _ := [peripheralTransport]

def obligingTry (key : PublicKey) : TimedAttempt :=
  { sampleTry with
    attempt := { sampleTry.attempt with connect := .ok (keyHolder key) }
    exchangeExpires := fun expired => by cases expired
    ackExpires := fun expired => by cases expired }

theorem fitting_sendable {call : SendCall} {key : PublicKey}
    (bound : call.peerId = peerIdFromPublicKey prims key)
    (fits : fitsSession call.frame = true) (receiver : NodeState prims) :
    Sendable prims call := by
  let registry := ((KeyRegistryState.empty none).insertDirect call.peerId key).1
  have known : registry.get call.peerId = some key := by
    rw [KeyRegistryState.get_insert_direct, if_pos rfl]
  have acknowledges : Acknowledges key (obligingTry key).attempt :=
    ⟨⟨keyHolder key, rfl, by simp [keyHolder]⟩, rfl, [], rfl⟩
  have dialled : openPlan.candidatesAt 0 ≠ [] := by
    rw [DialPlan.candidatesAt, candidates_for_sorted]
    exact List.cons_ne_nil _ _
  refine ⟨openPlan, fun _ => obligingTry key, .start registry ∅ 0 receiver, ?_⟩
  rw [acknowledged_send bound known fits acknowledges rfl dialled]

theorem sendable_iff {call : SendCall} {key : PublicKey}
    (bound : call.peerId = peerIdFromPublicKey prims key) (receiver : NodeState prims) :
    Sendable prims call ↔ call.payload.length ≤ 65511 := by
  rw [← fits_session_iff call.messageId]
  exact ⟨sendable_fits, fun fits => fitting_sendable bound fits receiver⟩

/-- The limits of the three kinds of payload are exact: up to them there are transports and
answers with which `Router::send` returns `Ok`. Beyond them it returns an error with any
transports, any answers and any number of tries, and no frame is dispatched at the receiver
and no event fires at the caller. -/
theorem payload_limits_exact (receiver : NodeState prims) (sender peer dest : PeerId)
    (key : PublicKey) (bound : peer = peerIdFromPublicKey prims key) (messageId : UInt64)
    (ttl : UInt8) (payload : Bytes) :
    (Sendable prims ⟨sender, directBody payload, peer, messageId⟩ ↔ payload.length ≤ 65510) ∧
    (Sendable prims ⟨sender, routedBody dest ttl payload, peer, messageId⟩ ↔
      payload.length ≤ 65477) ∧
    (Sendable prims ⟨sender, sealedBody dest ttl payload, peer, messageId⟩ ↔
      payload.length ≤ 65477) ∧
    ∀ (call : SendCall) (plan : DialPlan) (tries : Nat → TimedAttempt) (state : CallState prims),
      65511 < call.payload.length →
      ∃ error, (routerSend plan call tries state).2 = .error error ∧
        Unheard state (routerSend plan call tries state).1 := by
  refine ⟨?_, ?_, ?_, ?_⟩
  · rw [sendable_iff bound receiver]
    simp only [directBody, List.length_cons]
    omega
  · rw [sendable_iff bound receiver]
    simp [routedBody]
    omega
  · rw [sendable_iff bound receiver]
    simp [sealedBody]
    omega
  · intro call plan tries state large
    refine oversized_send ?_ state
    rw [← Bool.not_eq_true]
    intro fits
    exact absurd ((fits_session_iff _ _).mp fits) (Nat.not_le_of_lt large)

theorem payload_limits_exact_sample :
    Sendable clearPrimitives ⟨samplePeer 1, directBody [42], samplePeer 2, 7⟩ := by
  have bound : samplePeer 2 = peerIdFromPublicKey clearPrimitives (samplePeer 2).octets := by
    rw [clear_peer_id]
  exact (payload_limits_exact (sampleNode 2 [] []) (samplePeer 1) (samplePeer 2) (samplePeer 3) _
    bound 7 7 [42]).1.mpr (by decide)

/-! ## Stored payloads -/

section Stored

variable (prims) (config : StoreConfig) (sender : PeerId)

def storedCall (dest : PeerId) (entry : Entry) (target : Target) : SendCall where
  sender := sender
  payload := config.policy.body dest entry.payload
  peerId := target.1
  messageId := entry.msgId

def ResultsOfRouter (dest : PeerId) (entry : Entry) (targets : List Target)
    (results : List Bool) : Prop :=
  ∀ target result, (target, result) ∈ targets.zip results → result = true →
    Sendable prims (storedCall config sender dest entry target)

/-- The results in a label are those of the calls it stands for. -/
def answeredByRouter (state : StoreState) : StoreLabel → Prop
  | .attempt index results => ∀ caller targets, state.callers[index]? = some caller →
      caller.phase = .attempting targets →
      ResultsOfRouter prims config sender caller.dest caller.entry targets results
  | .process index results => ∀ rest batch entry todo now targets,
      state.drains[index]? = some { rest := rest, batch := some batch } →
      batch.todo = entry :: todo → batch.view = some (now, targets) →
      ResultsOfRouter prims config sender batch.dest entry targets results
  | _ => True

variable {prims config sender}

theorem success_sendable {dest : PeerId} {entry : Entry} {targets : List Target}
    {results : List Bool} (complete : results.length = targets.length)
    (answered : ResultsOfRouter prims config sender dest entry targets results)
    (success : results.any id = true) :
    (config.policy.body dest entry.payload).length ≤ 65511 := by
  obtain ⟨result, among, good⟩ := List.any_eq_true.mp success
  obtain ⟨place, inside, rfl⟩ := List.mem_iff_getElem.mp among
  have listed : (targets[place], results[place]) ∈ targets.zip results := by
    rw [List.mem_iff_getElem]
    refine ⟨place, ?_, List.getElem_zip⟩
    rw [List.length_zip]
    omega
  exact (fits_session_iff _ _).mp (sendable_fits (answered _ _ listed good))

theorem sent_step {state next : StoreState} {label : StoreLabel}
    (moved : StoreMove config state label next)
    (answered : answeredByRouter prims config sender state label) :
    next.sent = state.sent ∨ ∃ dest entry, next.sent = state.sent ++ [(dest, entry)] ∧
      (config.policy.body dest entry.payload).length ≤ 65511 := by
  cases moved with
  | @attempted index caller targets results present phase complete =>
      unfold StoreState.attempt
      dsimp only
      split_ifs with success
      · exact .inr ⟨_, _, rfl,
          success_sendable complete (answered caller targets present phase) success⟩
      · exact .inl rfl
  | @processed index now rest batch targets entry todo results present head read complete =>
      unfold StoreState.process
      dsimp only
      split_ifs with expired unknown success
      · exact .inl rfl
      · exact .inl rfl
      · exact .inr ⟨_, _, rfl, success_sendable complete
          (answered rest batch entry todo now targets present head read) success⟩
      · exact .inl rfl
  | enqueued => exact .inl (enqueue_frame ..).sent
  | took => exact .inl (take_frame ..).sent
  | finished => exact .inl (finish_frame ..).sent
  | _ => exact .inl rfl

theorem sent_fits {peers : PeerTable} {labels : List StoreLabel} {state : StoreState}
    (run : Run (storeStep config) (answeredByRouter prims config sender) (.start peers) labels
      state) :
    ∀ item ∈ state.sent, (config.policy.body item.1 item.2.payload).length ≤ 65511 := by
  refine run_invariant (fun state : StoreState => ∀ item ∈ state.sent,
    (config.policy.body item.1 item.2.payload).length ≤ 65511) ?_ run
      fun _ listed => absurd listed List.not_mem_nil
  intro before label after fits answered taken item listed
  rcases sent_step (store_step_moves taken) answered with same | ⟨dest, entry, gained, short⟩
  · exact fits item (same ▸ listed)
  · rw [gained] at listed
    rcases List.mem_append.mp listed with earlier | now
    · exact fits item earlier
    · rw [List.mem_singleton.mp now]
      exact short

/-- The store takes a payload of any length. One that is too long is then tried at every
drain and never leaves: until a `StoreFailed` event it is with its caller, in the queue or in
the batch of a drain, and no run of calls, drains and address changes has it sent. -/
theorem oversized_never_sent (peers : PeerTable) (labels : List StoreLabel) (state : StoreState)
    (run : Run (storeStep config) (answeredByRouter prims config sender) (.start peers) labels
      state)
    (item : Item) (accepted : item ∈ state.accepted)
    (large : 65511 < (config.policy.body item.1 item.2.payload).length) :
    item ∉ state.sent ∧
      state.attempting.count item + state.queued.count item + state.batched.count item +
        (state.storeFailed : Multiset Item).count item = 1 := by
  have unsent : item ∉ state.sent := fun sent =>
    absurd (sent_fits run item sent) (Nat.not_le_of_lt large)
  obtain ⟨conserved, numbered, -⟩ := run_conserved run
  have once := Multiset.count_eq_one_of_mem (Multiset.coe_nodup.mpr (accepted_nodup numbered))
    (Multiset.mem_coe.mpr accepted)
  have absent : (state.sent : Multiset Item).count item = 0 :=
    Multiset.count_eq_zero_of_notMem (by simpa using unsent)
  rw [← conserved, StoreState.held] at once
  simp only [Multiset.count_add, absent, Nat.add_zero] at once
  exact ⟨unsent, once⟩

end Stored

def failing : StoreState → StoreLabel → Prop
  | _, .attempt _ results => true ∉ results
  | _, .process _ results => true ∉ results
  | _, _ => True

instance : ∀ state label, Decidable (failing state label)
  | _, .attempt _ results => inferInstanceAs (Decidable (true ∉ results))
  | _, .process _ results => inferInstanceAs (Decidable (true ∉ results))
  | _, .accept .. | _, .lookup .. | _, .enqueue .. | _, .spawnDrain .. | _, .take ..
  | _, .view .. | _, .finish .. | _, .retire .. | _, .changePeers .. => isTrue trivial

theorem failing_answered {config : StoreConfig} {sender : PeerId} (state : StoreState)
    (label : StoreLabel) (fails : failing state label) :
    answeredByRouter prims config sender state label := by
  cases label with
  | attempt index results =>
      rintro caller targets - - target result listed rfl
      exact absurd (List.of_mem_zip listed).2 fails
  | process index results =>
      rintro rest batch entry todo now targets - - - target result listed rfl
      exact absurd (List.of_mem_zip listed).2 fails
  | _ => exact trivial

def firstEntry (payload : Bytes) : Entry where
  call := 0
  msgId := newMessageId sampleEntropy
  payload := payload
  queuedAt := 0

def triedTwice (payload : Bytes) : List StoreLabel :=
  callAndEnqueue payload ++ startDrain 0 ++ failDrain 0

theorem tried_twice_queued (payload : Bytes) :
    ((execute (fun state label => if failing state label then storeStep openStore state label
        else none) (.start knownPeer) (triedTwice payload)).map fun state =>
      (state.accepted, state.queue (samplePeer 2))) =
      some ([(samplePeer 2, firstEntry payload)], [firstEntry payload]) := rfl

/-- A payload of one byte more than the longest. After the try of its caller and one of a
drain it is back in the queue. -/
theorem oversized_never_sent_sample :
    ∃ (payload : Bytes) (state : StoreState), payload.length = 65511 ∧
      execute (storeStep openStore) (.start knownPeer) (triedTwice payload) = some state ∧
      state.queue (samplePeer 2) = [firstEntry payload] ∧
      (samplePeer 2, firstEntry payload) ∉ state.sent := by
  obtain ⟨payload, size⟩ : ∃ payload : Bytes, payload.length = 65511 :=
    ⟨List.replicate 65511 0, List.length_replicate⟩
  obtain ⟨state, reached, seen⟩ := Option.map_eq_some_iff.mp (tried_twice_queued payload)
  obtain ⟨gained, queued⟩ := Prod.mk.inj seen
  have run := run_of_execute_guarded reached
  have accepted : (samplePeer 2, firstEntry payload) ∈ state.accepted := by
    rw [gained]
    exact List.mem_singleton_self _
  refine ⟨payload, state, size, execute_of_run run, queued, ?_⟩
  refine (oversized_never_sent knownPeer _ state
    (run_weaken (@failing_answered clearPrimitives openStore (samplePeer 1)) run) _ accepted
    ?_).1
  simp [openStore, directStore, directBody, firstEntry, size]

end Pathweave
