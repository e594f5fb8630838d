import Pathweave.NodeTasks

/-!
# One call of the router

`Router::send` makes up to three passes over the addresses that some available
transport can dial, cheapest transports first, and stops at the first try that is
acknowledged. The call runs over an explicit clock on which only the waits for replies
and the backoff between passes take time, together with the node at the other end,
which may handle a frame whether or not its acknowledgement comes back.
-/

namespace Pathweave

open ByteStrings

set_option autoImplicit false

variable {prims : Primitives}

inductive TransportCost where
  | free
  | metered
  | unknown
  deriving DecidableEq

def TransportCost.rank : TransportCost → Nat
  | .free => 0
  | .metered => 1
  | .unknown => 2

structure TransportEntry where
  kind : TransportKind
  cost : TransportCost
  available : Bool

def maxSendAttempts : Nat := 3

def retryBackoff : Nat := seconds 1

def addrExchangeTimeout : Nat := seconds 2

def ackTimeout : Nat := seconds 5

/-- The pairs of an available transport and an address of its kind, by cost. The sort
is stable. -/
def candidatesFor (transports : List TransportEntry) (announcements : List PeerAnnouncement) :
    List (TransportEntry × PeerAnnouncement) :=
  let matched := (transports.filter fun entry => entry.available).flatMap fun entry =>
    announcements.filterMap fun announcement =>
      if announcement.address.kind = entry.kind then some (entry, announcement) else none
  matched.mergeSort fun left right => left.1.cost.rank ≤ right.1.cost.rank

/-- What happens during one try and how long its waits take. A wait that is not cut
short by a reply lasts as long as its timeout. -/
structure TimedAttempt where
  attempt : Attempt
  exchangeWait : Nat
  ackWait : Nat
  /-- Whether the receiver handles the frame, if one is transmitted. -/
  processed : Bool
  exchangeInTime : exchangeWait ≤ addrExchangeTimeout
  exchangeExpires : attempt.exchangeReply = .timedOut → exchangeWait = addrExchangeTimeout
  ackInTime : ackWait ≤ ackTimeout
  ackExpires : attempt.ackReply = .timedOut → ackWait = ackTimeout

/-- What a call can dial: its addresses, and the transports when it starts and at each
pass. -/
structure DialPlan where
  announcements : List PeerAnnouncement
  initially : List TransportEntry
  transports : Nat → List TransportEntry

structure SendCall where
  sender : PeerId
  payload : Bytes
  peerId : PeerId
  messageId : UInt64

structure CallState (prims : Primitives) where
  keyRegistry : KeyRegistryState
  peers : PeerTable
  clock : Nat
  tries : Nat
  events : List TransportEvent
  receiver : NodeState prims
  /-- The `on_message` calls at the receiver. -/
  handled : List (PeerId × Bytes)

def CallState.start (keyRegistry : KeyRegistryState) (peers : PeerTable) (clock : Nat)
    (receiver : NodeState prims) : CallState prims where
  keyRegistry := keyRegistry
  peers := peers
  clock := clock
  tries := 0
  events := []
  receiver := receiver
  handled := []

section Call

variable (plan : DialPlan) (call : SendCall) (attempts : Nat → TimedAttempt)

def SendCall.frame : Bytes := frameMessage call.messageId call.payload

def DialPlan.candidatesAt (attempt : Nat) : List (TransportEntry × PeerAnnouncement) :=
  candidatesFor (plan.transports attempt) plan.announcements

def receiveFrame (processed : Bool) (now : Nat) (state : CallState prims) : Option Bytes →
    CallState prims
  | some frame =>
      if processed then
        match dispatchPayload state.receiver call.sender now frame with
        | .ok outcome =>
            { state with
              receiver := outcome.node
              handled := state.handled ++ outcome.delivered.toList }
        | .error _ => state
      else state
  | none => state

def successEvents : Except Error (Option PublicKey) → List TransportEvent
  | .ok (some key) => [.messageDelivered call.peerId, .keyLearned call.peerId key]
  | .ok none => [.messageDelivered call.peerId]
  | .error _ => []

/-- One `try_send`, and whether it succeeded. -/
def tryOnce (state : CallState prims) : CallState prims × Bool :=
  let timed := attempts state.tries
  match trySend prims state.keyRegistry state.peers call.peerId call.payload call.messageId
      timed.attempt with
  | .error _ => (state, false)
  | .ok outcome =>
      let sentAt := state.clock + if outcome.sessionPeer.isSome then timed.exchangeWait else 0
      let received := receiveFrame call timed.processed sentAt state outcome.transmitted
      ({ received with
          keyRegistry := outcome.keyRegistry
          peers := outcome.peers
          clock := sentAt + if outcome.transmitted.isSome then timed.ackWait else 0
          tries := state.tries + 1
          events := state.events ++ successEvents call outcome.result },
        outcome.result.isOk)

/-- The candidates of one pass, until one of them succeeds. -/
def tryCandidates : List (TransportEntry × PeerAnnouncement) → CallState prims →
    CallState prims × Bool
  | [], state => (state, false)
  | _ :: rest, state =>
      match tryOnce call attempts state with
      | (after, true) => (after, true)
      | (after, false) => tryCandidates rest after

/-- The remaining passes; the backoff follows every failed pass but the last. -/
def sendPasses : Nat → Nat → CallState prims → CallState prims × Except Error Unit
  | 0, _, state => (state, .error .deliveryFailed)
  | left + 1, attempt, state =>
      let candidates := plan.candidatesAt attempt
      if candidates.isEmpty then (state, .error .noTransportAvailable)
      else
        match tryCandidates call attempts candidates state with
        | (after, true) => (after, .ok ())
        | (after, false) =>
            sendPasses left (attempt + 1)
              (if left = 0 then after else { after with clock := after.clock + retryBackoff })

def routerSend (state : CallState prims) : CallState prims × Except Error Unit :=
  if plan.initially.any fun entry => entry.available then
    sendPasses plan call attempts maxSendAttempts 0 state
  else (state, .error .noTransportAvailable)

def triesFrom : Nat → Nat → Nat
  | 0, _ => 0
  | left + 1, attempt =>
      let count := (plan.candidatesAt attempt).length
      if count = 0 then 0 else count + triesFrom left (attempt + 1)

def tryCount : Nat :=
  if plan.initially.any fun entry => entry.available then triesFrom plan maxSendAttempts 0
  else 0

end Call

/-! ## Invariants of a call -/

section Rule

variable {plan : DialPlan} {call : SendCall} {attempts : Nat → TimedAttempt}
  (invariant : Nat → Nat → CallState prims → Prop)

/-- What an invariant of a call has to satisfy. Its numbers are the tries and the
backoffs that may still follow; after a success no try follows. -/
structure CallInvariant (call : SendCall) (attempts : Nat → TimedAttempt) : Prop where
  failed : ∀ tries backoffs state, invariant (tries + 1) backoffs state →
    (tryOnce call attempts state).2 = false → invariant tries backoffs (tryOnce call attempts state).1
  succeeded : ∀ tries backoffs state, invariant (tries + 1) backoffs state →
    (tryOnce call attempts state).2 = true → invariant 0 backoffs (tryOnce call attempts state).1
  slept : ∀ tries backoffs state, invariant tries (backoffs + 1) state →
    invariant tries backoffs { state with clock := state.clock + retryBackoff }

variable {invariant}

theorem try_candidates_invariant (rule : CallInvariant invariant call attempts)
    (candidates : List (TransportEntry × PeerAnnouncement)) {tries backoffs : Nat}
    {state : CallState prims} (held : invariant (candidates.length + tries) backoffs state) :
    ((tryCandidates call attempts candidates state).2 = false →
      invariant tries backoffs (tryCandidates call attempts candidates state).1) ∧
    ((tryCandidates call attempts candidates state).2 = true →
      invariant 0 backoffs (tryCandidates call attempts candidates state).1) := by
  induction candidates generalizing state with
  | nil =>
      rw [List.length_nil, Nat.zero_add] at held
      exact ⟨fun _ => held, fun success => absurd success Bool.false_ne_true⟩
  | cons candidate rest ih =>
      rw [List.length_cons, Nat.add_right_comm] at held
      simp only [tryCandidates]
      split
      · next after success =>
          have ended := rule.succeeded _ _ _ held (congrArg Prod.snd success)
          rw [success] at ended
          exact ⟨fun failure => absurd failure.symm Bool.false_ne_true, fun _ => ended⟩
      · next after failure =>
          have continued := rule.failed _ _ _ held (congrArg Prod.snd failure)
          rw [failure] at continued
          exact ih continued

theorem send_passes_invariant (rule : CallInvariant invariant call attempts) (left attempt : Nat)
    {state : CallState prims} (held : invariant (triesFrom plan left attempt) (left - 1) state) :
    ∃ backoffs, invariant 0 backoffs (sendPasses plan call attempts left attempt state).1 := by
  induction left generalizing attempt state with
  | zero => exact ⟨_, held⟩
  | succ left ih =>
      simp only [triesFrom, List.length_eq_zero_iff] at held
      simp only [sendPasses, List.isEmpty_iff]
      by_cases none : plan.candidatesAt attempt = []
      · rw [if_pos none] at held ⊢
        exact ⟨_, held⟩
      · rw [if_neg none] at held ⊢
        rcases try_candidates_invariant rule _ held with ⟨failed, succeeded⟩
        split
        · next after success =>
            rw [success] at succeeded
            exact ⟨_, succeeded rfl⟩
        · next after failure =>
            rw [failure] at failed
            apply ih
            cases left with
            | zero => exact failed rfl
            | succ left => exact rule.slept _ _ _ (failed rfl)

theorem router_send_invariant (rule : CallInvariant invariant call attempts)
    {state : CallState prims}
    (held : invariant (tryCount plan) (maxSendAttempts - 1) state) :
    ∃ backoffs, invariant 0 backoffs (routerSend plan call attempts state).1 := by
  unfold tryCount at held
  unfold routerSend
  split_ifs at held ⊢ with available
  · exact send_passes_invariant rule maxSendAttempts 0 held
  · exact ⟨_, held⟩

end Rule

/-! ## The effect of a try -/

theorem try_send_transmits (prims : Primitives) (keyRegistry : KeyRegistryState)
    (peers : PeerTable) (peerId : PeerId) (payload : Bytes) (messageId : UInt64) (attempt : Attempt) :
    ∃ outcome, trySend prims keyRegistry peers peerId payload messageId attempt = .ok outcome ∧
      (outcome.transmitted = none ∨
        outcome.transmitted = some (frameMessage messageId payload)) := by
  cases connected : attempt.connect with
  | error error =>
      refine ⟨withoutSession peers keyRegistry error, ?_, .inl rfl⟩
      simp only [trySend, connected]
  | ok remote =>
      cases refusal : remote.refusal (keyRegistry.get peerId) with
      | some failure => exact ⟨_, try_send_refused connected refusal, .inl rfl⟩
      | none =>
          rcases decode_reply_total attempt.exchangeReply with ⟨exchanged, decoded⟩
          refine ⟨_, (try_send_over_session connected refusal).trans
            (by rw [overSession, decoded, checked_bind_ok]), ?_⟩
          simp only [sessionOutcome, sentBytes]
          split
          · exact .inr rfl
          · exact .inl rfl

inductive TryEffect (call : SendCall) (state after : CallState prims) : Prop where
  | unheard (counted : after.tries = state.tries + 1) (receiver : after.receiver = state.receiver)
      (handled : after.handled = state.handled)
      (late : after.clock ≤ state.clock + addrExchangeTimeout + ackTimeout)
  | heard (sentAt : Nat) (counted : after.tries = state.tries + 1)
      (waited : sentAt ≤ state.clock + addrExchangeTimeout)
      (receiver : after.receiver =
        (frameOutcome state.receiver call.sender sentAt (parseFrame call.frame)).node)
      (handled : after.handled = state.handled ++
        (frameOutcome state.receiver call.sender sentAt (parseFrame call.frame)).delivered.toList)
      (early : sentAt ≤ after.clock) (late : after.clock ≤ sentAt + ackTimeout)

theorem exchange_wait_le (timed : TimedAttempt) (session : Bool) :
    (if session then timed.exchangeWait else 0) ≤ addrExchangeTimeout := by
  split_ifs
  · exact timed.exchangeInTime
  · exact Nat.zero_le _

theorem receive_frame_processed (call : SendCall) (now : Nat) (state : CallState prims)
    (frame : Bytes) :
    receiveFrame call true now state (some frame) =
      { state with
        receiver := (frameOutcome state.receiver call.sender now (parseFrame frame)).node
        handled := state.handled ++
          (frameOutcome state.receiver call.sender now (parseFrame frame)).delivered.toList } := by
  simp only [receiveFrame, dispatch_payload_eq, if_true]

theorem receive_frame_setting (call : SendCall) (processed : Bool) (now : Nat)
    (state : CallState prims) (frame : Bytes) :
    SameSetting state.receiver (receiveFrame call processed now state (some frame)).receiver := by
  cases processed with
  | false => exact ⟨rfl, rfl, rfl, rfl⟩
  | true =>
      rw [receive_frame_processed]
      exact frame_outcome_setting ..

theorem try_once_effect (call : SendCall) (attempts : Nat → TimedAttempt)
    (state : CallState prims) :
    TryEffect call state (tryOnce call attempts state).1 := by
  have ack := (attempts state.tries).ackInTime
  rcases try_send_transmits prims state.keyRegistry state.peers call.peerId call.payload
    call.messageId (attempts state.tries).attempt with ⟨outcome, tried, nothing | sent⟩
  · have exchange := exchange_wait_le (attempts state.tries) outcome.sessionPeer.isSome
    simp only [tryOnce, tried, nothing, receiveFrame, Option.isSome_none, Bool.false_eq_true,
      if_false]
    refine .unheard rfl rfl rfl ?_
    dsimp only
    omega
  · have frame : outcome.transmitted = some call.frame := sent
    have exchange := exchange_wait_le (attempts state.tries) outcome.sessionPeer.isSome
    simp only [tryOnce, tried, frame, Option.isSome_some, if_true]
    generalize (if outcome.sessionPeer.isSome = true then (attempts state.tries).exchangeWait
      else 0) = wait at exchange ⊢
    cases processed : (attempts state.tries).processed with
    | false =>
        refine .unheard rfl rfl rfl ?_
        dsimp only
        omega
    | true =>
        rw [receive_frame_processed]
        -- Named, so that comparing the states does not evaluate the parser.
        generalize received : frameOutcome state.receiver call.sender (state.clock + wait)
          (parseFrame call.frame) = reaction
        refine .heard (state.clock + wait) rfl (Nat.add_le_add_left exchange _) ?_ ?_
          (Nat.le_add_right ..) (Nat.add_le_add_left ack _)
        · rw [received]
        · rw [received]

end Pathweave
