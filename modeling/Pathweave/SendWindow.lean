import Pathweave.RouterCalls

/-!
# One call and the dedup window

All tries of a call carry the same frame. The receiver forgets it after 60 seconds,
and a try can take 7, so how often the frame is handled depends on the number of tries,
that is on the number of addresses. Nine tries stay inside the window whatever happens
to them; ten need not.
-/

namespace Pathweave

open ByteStrings

set_option autoImplicit false

variable {prims : Primitives}

/-! ## What the receiver remembers -/

def rememberedAt (node : NodeState prims) (sender : PeerId) : Frame → Option Nat
  | .direct messageId _ => node.dedup.seen (sender, messageId)
  | .routed messageId _ _ => node.dedup.seenRouted messageId
  | .skipped => none

section Receiver

variable {node : NodeState prims} {sender : PeerId} {now : Nat} {frame : Frame}

theorem handled_remembered
    (delivered : (frameOutcome node sender now frame).delivered.isSome) :
    rememberedAt (frameOutcome node sender now frame).node sender frame = some now := by
  cases frame with
  | direct messageId payload => exact (direct_outcome_delivered node sender now delivered).2
  | routed messageId content ttl =>
      rcases routed_outcome_handled delivered with ⟨first, recorded⟩
      simp only [rememberedAt, frameOutcome, recorded]
      exact check_records first
  | skipped => cases delivered

theorem remembered_not_handled {inserted : Nat}
    (remembered : rememberedAt node sender frame = some inserted)
    (recent : now < inserted + node.dedup.ttl) :
    (frameOutcome node sender now frame).delivered = none ∧
      rememberedAt (frameOutcome node sender now frame).node sender frame = some inserted := by
  cases frame with
  | direct messageId payload =>
      constructor
      · by_contra handled
        have delivered := Option.isSome_iff_ne_none.mpr handled
        have expired := (direct_outcome_delivered node sender now delivered).1 inserted remembered
        omega
      · rcases frame_outcome_seen node sender now remembered with kept | expired
        · exact kept
        · omega
  | routed messageId content ttl =>
      constructor
      · by_contra handled
        have delivered := Option.isSome_iff_ne_none.mpr handled
        have found : (node.dedup.checkAndInsertRouted now messageId).1 = true :=
          check_duplicate remembered recent
        rw [(routed_outcome_handled delivered).1] at found
        cases found
      · simp only [rememberedAt, frameOutcome]
        rcases routed_outcome_dedup with same | checked
        · rw [same]
          exact remembered
        · have entry : node.dedup.seenRouted messageId = some inserted := remembered
          have checkedEntry : (node.dedup.checkAndInsertRouted now messageId).2.seenRouted messageId =
              some inserted ∨ inserted + node.dedup.ttl ≤ now := check_keeps entry
          rw [checked]
          rcases checkedEntry with kept | expired
          · exact kept
          · omega
  | skipped => cases remembered

end Receiver

/-! ## Few tries -/

/-- What holds while at most nine tries are made: the handler was called at most once,
and if it was, the clock is still close to that moment. -/
structure InsideWindow (call : SendCall) (tries backoffs : Nat) (state : CallState prims) :
    Prop where
  few : state.tries + tries ≤ 9
  limited : backoffs ≤ 2
  lifetime : state.receiver.dedup.ttl = dedupTtl
  once : state.handled.length ≤ 1
  remembered : state.handled ≠ [] → ∃ handledAt,
    rememberedAt state.receiver call.sender (parseFrame call.frame) = some handledAt ∧
      state.clock + seconds (2 + backoffs) ≤ handledAt + seconds (7 * state.tries + 2)

section FewTries

variable {call : SendCall} {attempts : Nat → TimedAttempt}

/-- A frame that is processed after a first handler call still falls in the window. -/
theorem inside_window_sent {tries backoffs sentAt handledAt : Nat} {state : CallState prims}
    (inside : InsideWindow call (tries + 1) backoffs state)
    (waited : sentAt ≤ state.clock + addrExchangeTimeout)
    (close : state.clock + seconds (2 + backoffs) ≤ handledAt + seconds (7 * state.tries + 2)) :
    sentAt < handledAt + state.receiver.dedup.ttl := by
  have few := inside.few
  rw [inside.lifetime]
  simp only [seconds, addrExchangeTimeout, dedupTtl] at close waited ⊢
  omega

theorem first_call_remembered {sentAt : Nat} {state after : CallState prims}
    (fresh : state.handled = [])
    (receiver : after.receiver =
      (frameOutcome state.receiver call.sender sentAt (parseFrame call.frame)).node)
    (handled : after.handled = state.handled ++
      (frameOutcome state.receiver call.sender sentAt (parseFrame call.frame)).delivered.toList)
    (happened : after.handled ≠ []) :
    rememberedAt after.receiver call.sender (parseFrame call.frame) = some sentAt := by
  rw [receiver]
  apply handled_remembered
  rw [handled, fresh, List.nil_append] at happened
  rw [Option.isSome_iff_ne_none]
  intro ignored
  rw [ignored] at happened
  exact happened rfl

theorem inside_window_try {tries backoffs : Nat} {state after : CallState prims}
    (inside : InsideWindow call (tries + 1) backoffs state) (effect : TryEffect call state after) :
    InsideWindow call tries backoffs after := by
  have few := inside.few
  have limited := inside.limited
  cases effect with
  | unheard counted receiver handled late =>
      refine ⟨by omega, limited, receiver ▸ inside.lifetime, handled ▸ inside.once, ?_⟩
      rw [handled, receiver, counted]
      intro happened
      rcases inside.remembered happened with ⟨handledAt, remembered, close⟩
      refine ⟨handledAt, remembered, ?_⟩
      simp only [seconds, addrExchangeTimeout, ackTimeout] at close late ⊢
      omega
  | heard sentAt counted waited receiver handled early late =>
      have lifetime : after.receiver.dedup.ttl = dedupTtl := by
        rw [receiver, (frame_outcome_setting ..).lifetime]
        exact inside.lifetime
      by_cases fresh : state.handled = []
      · have once : after.handled.length ≤ 1 := by
          rw [handled, fresh, List.nil_append]
          exact Option.length_toList_le
        refine ⟨by omega, limited, lifetime, once, ?_⟩
        intro happened
        refine ⟨sentAt, first_call_remembered fresh receiver handled happened, ?_⟩
        rw [counted]
        simp only [seconds, ackTimeout] at late ⊢
        omega
      · rcases inside.remembered fresh with ⟨handledAt, remembered, close⟩
        have recent := inside_window_sent inside waited close
        rcases remembered_not_handled remembered recent with ⟨ignored, kept⟩
        rw [ignored, Option.toList_none, List.append_nil] at handled
        refine ⟨by omega, limited, lifetime, handled ▸ inside.once, ?_⟩
        intro _
        refine ⟨handledAt, receiver ▸ kept, ?_⟩
        rw [counted]
        simp only [seconds, addrExchangeTimeout, ackTimeout] at close waited late ⊢
        omega

theorem inside_window_rule :
    CallInvariant (@InsideWindow prims call) call attempts where
  failed := by
    intro tries backoffs state inside _
    exact inside_window_try inside (try_once_effect call attempts state)
  succeeded := by
    intro tries backoffs state inside _
    have after := inside_window_try inside (try_once_effect call attempts state)
    have few := after.few
    exact ⟨by omega, after.limited, after.lifetime, after.once, after.remembered⟩
  slept := by
    intro tries backoffs state inside
    have limited := inside.limited
    refine ⟨inside.few, by omega, inside.lifetime, inside.once, ?_⟩
    intro happened
    rcases inside.remembered happened with ⟨handledAt, remembered, close⟩
    refine ⟨handledAt, remembered, ?_⟩
    simp only [seconds, retryBackoff] at close ⊢
    omega

end FewTries

/-! ## Many tries -/

/-- A try that waits out both timeouts: the frame goes out, the acknowledgement does
not come back. -/
def lostAck (key : PublicKey) (processed : Bool) : TimedAttempt where
  attempt :=
    { connect := .ok (keyHolder key)
      localAddresses := []
      exchangeLink := none
      exchangeReply := .timedOut
      frameLink := none
      ackReply := .timedOut }
  exchangeWait := addrExchangeTimeout
  ackWait := ackTimeout
  processed := processed
  exchangeInTime := Nat.le_refl _
  exchangeExpires _ := rfl
  ackInTime := Nat.le_refl _
  ackExpires _ := rfl

/-- Only the first and the last frame are handled by the receiver. -/
def slowAttempts (key : PublicKey) (last : Nat) (count : Nat) : TimedAttempt :=
  lostAck key (count == 0 || count == last)

def slowId : UInt64 := newMessageId ⟨List.replicate 8 0, rfl⟩

def slowCall (prims : Primitives) (sender : PeerId) (key : PublicKey) : SendCall where
  sender := sender
  payload := directBody []
  peerId := peerIdFromPublicKey prims key
  messageId := slowId

section ManyTries

variable {sender : PeerId} {key : PublicKey} {last : Nat}

def AnswersTo (prims : Primitives) (key : PublicKey) (registry : KeyRegistryState) : Prop :=
  registry.get (peerIdFromPublicKey prims key) = none ∨
    registry.get (peerIdFromPublicKey prims key) = some key

theorem key_holder_accepts {registry : KeyRegistryState} (answers : AnswersTo prims key registry) :
    (keyHolder key).refusal (registry.get (peerIdFromPublicKey prims key)) = none := by
  rcases answers with unknown | known
  · rw [unknown]
    rfl
  · rw [known]
    exact if_pos rfl

theorem try_once_slow {state : CallState prims}
    (answers : AnswersTo prims key state.keyRegistry) :
    tryOnce (slowCall prims sender key) (slowAttempts key last) state =
      ({ receiveFrame (slowCall prims sender key) (state.tries == 0 || state.tries == last)
            (state.clock + addrExchangeTimeout) state (some (slowCall prims sender key).frame) with
          keyRegistry := (state.keyRegistry.insertDirect (peerIdFromPublicKey prims key) key).1
          peers := state.peers
          clock := state.clock + addrExchangeTimeout + ackTimeout
          tries := state.tries + 1
          events := state.events }, false) := by
  have tried : trySend prims state.keyRegistry state.peers (slowCall prims sender key).peerId
      (slowCall prims sender key).payload (slowCall prims sender key).messageId
      (slowAttempts key last state.tries).attempt =
      .ok (sessionOutcome prims state.keyRegistry state.peers (slowCall prims sender key).peerId
        (slowCall prims sender key).payload (slowCall prims sender key).messageId
        (slowAttempts key last state.tries).attempt (Session.finish prims key) none) :=
    try_send_over_session rfl (key_holder_accepts answers)
  generalize finished : sessionOutcome prims state.keyRegistry state.peers
    (slowCall prims sender key).peerId (slowCall prims sender key).payload
    (slowCall prims sender key).messageId (slowAttempts key last state.tries).attempt
    (Session.finish prims key) none = outcome at tried
  have registry : outcome.keyRegistry =
      (state.keyRegistry.insertDirect (peerIdFromPublicKey prims key) key).1 := by
    rw [← finished]
    rfl
  have peers : outcome.peers = state.peers := by
    rw [← finished]
    rfl
  have session : outcome.sessionPeer.isSome = true := by
    rw [← finished]
    rfl
  have transmitted : outcome.transmitted = some (slowCall prims sender key).frame := by
    rw [← finished]
    rfl
  have result : outcome.result = .error (.transport "delivery ACK timed out") := by
    rw [← finished]
    rfl
  simp only [tryOnce, tried, registry, peers, session, transmitted, result, Option.isSome_some,
    if_true, successEvents, List.append_nil]
  rfl

theorem slow_frame_parses :
    parseFrame (slowCall prims sender key).frame = .direct slowId [] :=
  parse_direct slowId []

theorem receive_slow_frame {state : CallState prims} {now : Nat}
    (handler : state.receiver.handlerRegistered = true)
    (expired : ∀ inserted, state.receiver.dedup.seen (sender, slowId) = some inserted →
      fresh state.receiver.dedup.ttl now inserted = false) :
    receiveFrame (slowCall prims sender key) true now state
        (some (slowCall prims sender key).frame) =
      { state with
        receiver := { state.receiver with
          dedup := (state.receiver.dedup.checkAndInsert now sender slowId).2 }
        handled := state.handled ++ [(sender, [])] } := by
  have first : (state.receiver.dedup.checkAndInsert now sender slowId).1 = false :=
    check_first expired
  have origin : (slowCall prims sender key).sender = sender := rfl
  rw [receive_frame_processed, slow_frame_parses, origin]
  simp [frameOutcome, first, NodeState.onMessage, handler, acknowledged]

/-- How often the handler was called, by the number of tries made. -/
inductive SlowStage (sender : PeerId) (last : Nat) (state : CallState prims) : Prop where
  | untried (begun : state.tries = 0) (unknown : state.receiver.dedup.seen (sender, slowId) = none)
      (unhandled : state.handled = [])
  | waiting (handledAt : Nat) (begun : 0 < state.tries) (early : state.tries ≤ last)
      (recorded : state.receiver.dedup.seen (sender, slowId) = some handledAt)
      (once : state.handled.length = 1)
      (late : handledAt + seconds (7 * state.tries) ≤ state.clock + addrExchangeTimeout)
  | repeated (all : state.tries = last + 1) (twice : state.handled.length = 2)

structure SlowProgress (sender : PeerId) (key : PublicKey) (last tries backoffs : Nat)
    (state : CallState prims) : Prop where
  counted : state.tries + tries = last + 1
  answers : AnswersTo prims key state.keyRegistry
  handler : state.receiver.handlerRegistered = true
  lifetime : state.receiver.dedup.ttl = dedupTtl
  stage : SlowStage sender last state

theorem slow_entry_expired {state : CallState prims} {handledAt : Nat} (many : 9 ≤ last)
    (lifetime : state.receiver.dedup.ttl = dedupTtl)
    (late : handledAt + seconds (7 * last) ≤ state.clock + addrExchangeTimeout) :
    fresh state.receiver.dedup.ttl (state.clock + addrExchangeTimeout) handledAt = false := by
  rw [lifetime, ← Bool.not_eq_true, fresh_iff]
  simp only [seconds, dedupTtl, addrExchangeTimeout] at late ⊢
  omega

theorem slow_stage_try {tries backoffs : Nat} {state : CallState prims} (many : 9 ≤ last)
    (progress : SlowProgress sender key last (tries + 1) backoffs state) :
    SlowStage sender last
      (tryOnce (slowCall prims sender key) (slowAttempts key last) state).1 := by
  have counted := progress.counted
  rw [try_once_slow progress.answers]
  cases progress.stage with
  | untried begun unknown unhandled =>
      have processed : (state.tries == 0 || state.tries == last) = true := by simp [begun]
      have expired : ∀ inserted, state.receiver.dedup.seen (sender, slowId) = some inserted →
          fresh state.receiver.dedup.ttl (state.clock + addrExchangeTimeout) inserted = false := by
        intro inserted entry
        rw [unknown] at entry
        cases entry
      rw [processed, receive_slow_frame progress.handler expired]
      refine .waiting (state.clock + addrExchangeTimeout) ?_ ?_ ?_ ?_ ?_
      · exact Nat.succ_pos _
      · dsimp only
        omega
      · exact check_records (check_first expired)
      · simp [unhandled]
      · simp only [begun, seconds, addrExchangeTimeout, ackTimeout]
        omega
  | waiting handledAt begun early recorded once late =>
      by_cases final : state.tries = last
      · have processed : (state.tries == 0 || state.tries == last) = true := by simp [final]
        have expired : ∀ inserted, state.receiver.dedup.seen (sender, slowId) = some inserted →
            fresh state.receiver.dedup.ttl (state.clock + addrExchangeTimeout) inserted =
              false := by
          intro inserted entry
          rw [recorded] at entry
          cases entry
          exact slow_entry_expired many progress.lifetime (final ▸ late)
        rw [processed, receive_slow_frame progress.handler expired]
        refine .repeated ?_ ?_
        · dsimp only
          omega
        · simp [once]
      · have ignored : (state.tries == 0 || state.tries == last) = false := by
          simp [final]
          omega
        have longer : seconds (7 * (state.tries + 1)) =
            seconds (7 * state.tries) + (addrExchangeTimeout + ackTimeout) := by
          simp only [seconds, addrExchangeTimeout, ackTimeout]
          omega
        rw [ignored]
        refine .waiting handledAt ?_ ?_ recorded once ?_
        · exact Nat.succ_pos _
        · dsimp only
          omega
        · dsimp only
          omega
  | repeated all twice => omega

theorem slow_progress_try {tries backoffs : Nat} {state : CallState prims} (many : 9 ≤ last)
    (progress : SlowProgress sender key last (tries + 1) backoffs state) :
    SlowProgress sender key last tries backoffs
      (tryOnce (slowCall prims sender key) (slowAttempts key last) state).1 := by
  have counted := progress.counted
  have stage := slow_stage_try many progress
  rw [try_once_slow progress.answers] at stage ⊢
  have setting := receive_frame_setting (slowCall prims sender key)
    (state.tries == 0 || state.tries == last) (state.clock + addrExchangeTimeout) state
    (slowCall prims sender key).frame
  refine ⟨?_, ?_, setting.handler.trans progress.handler, setting.lifetime.trans progress.lifetime,
    stage⟩
  · dsimp only
    omega
  · refine .inr ?_
    rw [KeyRegistryState.get_insert_direct, if_pos rfl]

theorem slow_progress_rule (many : 9 ≤ last) :
    CallInvariant (@SlowProgress prims sender key last) (slowCall prims sender key)
      (slowAttempts key last) where
  failed := by
    intro tries backoffs state progress _
    exact slow_progress_try many progress
  succeeded := by
    intro tries backoffs state progress success
    rw [try_once_slow progress.answers] at success
    cases success
  slept := by
    intro tries backoffs state progress
    refine ⟨progress.counted, progress.answers, progress.handler, progress.lifetime, ?_⟩
    cases progress.stage with
    | untried begun unknown unhandled => exact .untried begun unknown unhandled
    | waiting handledAt begun early recorded once late =>
        refine .waiting handledAt begun early recorded once ?_
        dsimp only
        omega
    | repeated all twice => exact .repeated all twice

end ManyTries

/-! ## The number of tries decides -/

/-- Whatever happens to its tries, a call that can dial this much reaches the handler of
a receiver with the usual window at most once. -/
def HandledAtMostOnce (prims : Primitives) (plan : DialPlan) : Prop :=
  ∀ (call : SendCall) (attempts : Nat → TimedAttempt) (keyRegistry : KeyRegistryState)
    (peers : PeerTable) (clock : Nat) (receiver : NodeState prims),
    receiver.dedup.ttl = dedupTtl →
    (routerSend plan call attempts (.start keyRegistry peers clock receiver)).1.handled.length ≤ 1

theorem few_tries_handled_once {plan : DialPlan} (few : tryCount plan ≤ 9) :
    HandledAtMostOnce prims plan := by
  intro call attempts keyRegistry peers clock receiver lifetime
  have initial : InsideWindow call (tryCount plan) (maxSendAttempts - 1)
      (.start keyRegistry peers clock receiver) := by
    refine ⟨?_, Nat.le_refl 2, lifetime, Nat.zero_le _, ?_⟩
    · simpa [CallState.start] using few
    · intro happened
      exact absurd rfl happened
  rcases router_send_invariant inside_window_rule initial with ⟨backoffs, inside⟩
  exact inside.once

def attentiveReceiver (prims : Primitives) : NodeState prims where
  identity :=
    { privateKey := (samplePeer 2).octets
      publicKey := prims.x25519PublicKey (samplePeer 2).octets
      peerId := peerIdFromPublicKey prims (prims.x25519PublicKey (samplePeer 2).octets)
      derived := rfl
      hashed := rfl }
  dedup := .new
  handlerRegistered := true
  peers := ∅
  keyRegistry := .empty none

theorem many_tries_handled_twice {plan : DialPlan} (many : 9 < tryCount plan) :
    ¬ HandledAtMostOnce prims plan := by
  intro once
  have counted : 0 + tryCount plan = tryCount plan - 1 + 1 := by omega
  have initial : SlowProgress (samplePeer 1) (samplePeer 2).octets (tryCount plan - 1)
      (tryCount plan) (maxSendAttempts - 1)
      (CallState.start (.empty none) ∅ 0 (attentiveReceiver prims)) :=
    ⟨counted, .inl rfl, rfl, rfl, .untried rfl rfl rfl⟩
  rcases router_send_invariant (slow_progress_rule (by omega)) initial with ⟨backoffs, progress⟩
  have bound := once (slowCall prims (samplePeer 1) (samplePeer 2).octets)
    (slowAttempts (samplePeer 2).octets (tryCount plan - 1)) (.empty none) ∅ 0
    (attentiveReceiver prims) rfl
  have finished := progress.counted
  cases progress.stage with
  | untried begun unknown unhandled => omega
  | waiting handledAt begun early recorded single late => omega
  | repeated all twice => omega

/-- A call reaches the handler at most once, whatever happens to its tries, exactly if
its passes make at most nine tries together. -/
theorem handled_at_most_once_iff (prims : Primitives) (plan : DialPlan) :
    HandledAtMostOnce prims plan ↔ tryCount plan ≤ 9 := by
  constructor
  · intro once
    by_contra many
    exact many_tries_handled_twice (Nat.lt_of_not_le many) once
  · exact few_tries_handled_once

def fourAddresses : DialPlan where
  announcements := [⟨.ble "a", none⟩, ⟨.ble "b", none⟩, ⟨.ble "c", none⟩, ⟨.ble "d", none⟩]
  initially := [⟨.ble, .free, true⟩]
  transports _ := [⟨.ble, .free, true⟩]

theorem four_addresses_handled_twice :
    ¬ ∀ (prims : Primitives) (plan : DialPlan), HandledAtMostOnce prims plan := by
  intro once
  have pass : ∀ attempt, (fourAddresses.candidatesAt attempt).length = 4 := by
    intro attempt
    simp only [DialPlan.candidatesAt, candidatesFor, List.length_mergeSort]
    rfl
  have tries : tryCount fourAddresses = 12 := by
    have available : (fourAddresses.initially.any fun entry => entry.available) = true := rfl
    simp only [tryCount, available, if_true, maxSendAttempts, triesFrom, pass]
    rfl
  exact many_tries_handled_twice (by omega) (once clearPrimitives fourAddresses)

end Pathweave
