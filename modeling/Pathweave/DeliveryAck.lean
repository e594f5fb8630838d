import Pathweave.GuardedRuns
import Pathweave.SampleMesh
import Pathweave.Sessions

/-!
# The delivery acknowledgement

One call of `try_send` and the `handle_incoming` task at the other end, as two
parties over a reliable first-in first-out connection. Both rounds of the call,
the address exchange and the delivery, are answered on the same untyped channel,
and the initiator may give up on the first round by a timeout. It then takes a
late exchange reply for the acknowledgement.
-/

namespace Pathweave

open ByteStrings GuardedRuns

set_option autoImplicit false

structure AckCall (prims : Primitives) where
  /-- The initiator, as the responder's session knows it. -/
  sender : PeerId
  peerId : PeerId
  initiatorAddresses : List PeerAddress
  responderAddresses : List PeerAddress
  initiatorPeers : PeerTable
  responder : NodeState prims
  messageId : UInt64
  payload : Bytes

inductive InitiatorPhase where
  | sendExchange
  | awaitExchange
  | sendFrame
  | awaitAck
  | returned (result : Except Error Unit)
  deriving DecidableEq

inductive ResponderPhase where
  | awaitFirst
  | replying
  | awaitApp
  | dispatching (payload : Bytes)
  | acknowledging (reply : Bytes)

structure AckState (prims : Primitives) where
  initiator : InitiatorPhase
  responder : ResponderPhase
  toResponder : List Bytes
  toInitiator : List Bytes
  initiatorPeers : PeerTable
  node : NodeState prims
  /-- The payloads `dispatch_payload` was run on, oldest first. -/
  dispatched : List Bytes

inductive AckLabel where
  | sendExchange
  | receiveExchange
  | exchangeTimeout
  | sendFrame
  | receiveAck
  | ackTimeout
  | responderReceive
  | responderReply
  | responderDispatch (now : Nat)
  | responderAck
  deriving DecidableEq

variable {prims : Primitives}

namespace AckCall

def offer (call : AckCall prims) : Bytes := encodeAddrExchange call.initiatorAddresses

def answer (call : AckCall prims) : Bytes := encodeAddrExchange call.responderAddresses

def frame (call : AckCall prims) : Bytes := frameMessage call.messageId call.payload

def start (call : AckCall prims) : AckState prims where
  initiator := .sendExchange
  responder := .awaitFirst
  toResponder := []
  toInitiator := []
  initiatorPeers := call.initiatorPeers
  node := call.responder
  dispatched := []

end AckCall

/-- What a send whose failure is ignored puts on the channel. -/
def pushFitting (channel : List Bytes) (plaintext : Bytes) : List Bytes :=
  if fitsSession plaintext then channel ++ [plaintext] else channel

section Steps

variable (call : AckCall prims) (state : AckState prims)

def initiatorReceiveExchange : Option (AckState prims) :=
  match state.initiator, state.toInitiator with
  | .awaitExchange, bytes :: rest =>
      match decodeAddrExchange bytes with
      | .ok exchanged =>
          some { state with
            initiator := .sendFrame
            toInitiator := rest
            initiatorPeers := mergeExchanged state.initiatorPeers call.peerId exchanged }
      | .error _ => none
  | _, _ => none

def initiatorSendFrame : Option (AckState prims) :=
  match state.initiator with
  | .sendFrame =>
      if fitsSession call.frame then
        some { state with
          initiator := .awaitAck
          toResponder := state.toResponder ++ [call.frame] }
      else some { state with initiator := .returned (.error (.session "input error")) }
  | _ => none

/-- The first message may be a control frame; every later one is dispatched. -/
def responderReceive : Option (AckState prims) :=
  match state.responder, state.toResponder with
  | .awaitFirst, bytes :: rest =>
      if looksLikeControl bytes then
        match decodeAddrExchange bytes with
        | .ok exchanged =>
            some { state with
              responder := .replying
              toResponder := rest
              node := { state.node with
                peers := mergeExchanged state.node.peers call.sender exchanged } }
        | .error _ => none
      else some { state with responder := .dispatching bytes, toResponder := rest }
  | .awaitApp, bytes :: rest =>
      some { state with responder := .dispatching bytes, toResponder := rest }
  | _, _ => none

def responderDispatch (now : Nat) : Option (AckState prims) :=
  match state.responder with
  | .dispatching bytes =>
      match dispatchPayload state.node call.sender now bytes with
      | .ok outcome =>
          some { state with
            responder := .acknowledging outcome.reply
            node := outcome.node
            dispatched := state.dispatched ++ [bytes] }
      | .error _ => none
  | _ => none

def ackStep : AckLabel → Option (AckState prims)
  | .sendExchange =>
      match state.initiator with
      | .sendExchange =>
          some { state with
            initiator := .awaitExchange
            toResponder := pushFitting state.toResponder call.offer }
      | _ => none
  | .receiveExchange => initiatorReceiveExchange call state
  | .exchangeTimeout =>
      match state.initiator with
      | .awaitExchange => some { state with initiator := .sendFrame }
      | _ => none
  | .sendFrame => initiatorSendFrame call state
  | .receiveAck =>
      match state.initiator, state.toInitiator with
      | .awaitAck, _ :: rest =>
          some { state with initiator := .returned (.ok ()), toInitiator := rest }
      | _, _ => none
  | .ackTimeout =>
      match state.initiator with
      | .awaitAck =>
          some { state with
            initiator := .returned (.error (.transport "delivery ACK timed out")) }
      | _ => none
  | .responderReceive => responderReceive call state
  | .responderReply =>
      match state.responder with
      | .replying =>
          some { state with
            responder := .awaitApp
            toInitiator := pushFitting state.toInitiator call.answer }
      | _ => none
  | .responderDispatch now => responderDispatch call state now
  | .responderAck =>
      match state.responder with
      | .acknowledging reply =>
          some { state with
            responder := .awaitApp
            toInitiator := pushFitting state.toInitiator reply }
      | _ => none

end Steps

/-! ## What a step can do -/

section Moves

variable (call : AckCall prims) (state : AckState prims)

inductive AckMove : AckLabel → AckState prims → Prop where
  | offered (phase : state.initiator = .sendExchange) :
      AckMove .sendExchange { state with
        initiator := .awaitExchange
        toResponder := pushFitting state.toResponder call.offer }
  | exchanged {bytes : Bytes} {rest : List Bytes} {peers : PeerTable}
      (phase : state.initiator = .awaitExchange) (waiting : state.toInitiator = bytes :: rest) :
      AckMove .receiveExchange { state with
        initiator := .sendFrame
        toInitiator := rest
        initiatorPeers := peers }
  | gaveUpExchange (phase : state.initiator = .awaitExchange) :
      AckMove .exchangeTimeout { state with initiator := .sendFrame }
  | sentFrame (phase : state.initiator = .sendFrame) :
      AckMove .sendFrame { state with
        initiator := .awaitAck
        toResponder := state.toResponder ++ [call.frame] }
  | failed {label : AckLabel} {error : Error} :
      AckMove label { state with initiator := .returned (.error error) }
  | receivedAck {reply : Bytes} {rest : List Bytes} (phase : state.initiator = .awaitAck)
      (waiting : state.toInitiator = reply :: rest) :
      AckMove .receiveAck { state with
        initiator := .returned (.ok ())
        toInitiator := rest }
  | tookControl {bytes : Bytes} {rest : List Bytes} {node : NodeState prims}
      (phase : state.responder = .awaitFirst) (waiting : state.toResponder = bytes :: rest)
      (control : looksLikeControl bytes = true) :
      AckMove .responderReceive { state with
        responder := .replying
        toResponder := rest
        node := node }
  | tookFrame {bytes : Bytes} {rest : List Bytes}
      (phase : state.responder = .awaitFirst ∧ looksLikeControl bytes = false ∨
        state.responder = .awaitApp)
      (waiting : state.toResponder = bytes :: rest) :
      AckMove .responderReceive { state with
        responder := .dispatching bytes
        toResponder := rest }
  | replied (phase : state.responder = .replying) :
      AckMove .responderReply { state with
        responder := .awaitApp
        toInitiator := pushFitting state.toInitiator call.answer }
  | ran {now : Nat} {bytes reply : Bytes} {node : NodeState prims}
      (phase : state.responder = .dispatching bytes) :
      AckMove (.responderDispatch now) { state with
        responder := .acknowledging reply
        node := node
        dispatched := state.dispatched ++ [bytes] }
  | acked {reply : Bytes} (phase : state.responder = .acknowledging reply) :
      AckMove .responderAck { state with
        responder := .awaitApp
        toInitiator := pushFitting state.toInitiator reply }

end Moves

variable {call : AckCall prims} {state next : AckState prims} {label : AckLabel}

theorem responder_receive_moves (taken : responderReceive call state = some next) :
    AckMove call state .responderReceive next := by
  unfold responderReceive at taken
  split at taken
  · rename_i bytes rest phase waiting
    split_ifs at taken with control
    · split at taken
      · cases taken
        exact .tookControl phase waiting control
      · cases taken
    · cases taken
      exact .tookFrame (.inl ⟨phase, by simpa using control⟩) waiting
  · rename_i bytes rest phase waiting
    cases taken
    exact .tookFrame (.inr phase) waiting
  · cases taken

theorem ack_step_moves (taken : ackStep call state label = some next) :
    AckMove call state label next := by
  cases label with
  | sendExchange =>
      simp only [ackStep] at taken
      split at taken
      · rename_i phase
        cases taken
        exact .offered phase
      · cases taken
  | receiveExchange =>
      simp only [ackStep, initiatorReceiveExchange] at taken
      split at taken
      · rename_i bytes rest phase waiting
        split at taken
        · cases taken
          exact .exchanged phase waiting
        · cases taken
      · cases taken
  | exchangeTimeout =>
      simp only [ackStep] at taken
      split at taken
      · rename_i phase
        cases taken
        exact .gaveUpExchange phase
      · cases taken
  | sendFrame =>
      simp only [ackStep, initiatorSendFrame] at taken
      split at taken
      · rename_i phase
        split_ifs at taken
        · cases taken
          exact .sentFrame phase
        · cases taken
          exact .failed
      · cases taken
  | receiveAck =>
      simp only [ackStep] at taken
      split at taken
      · rename_i reply rest phase waiting
        cases taken
        exact .receivedAck phase waiting
      · cases taken
  | ackTimeout =>
      simp only [ackStep] at taken
      split at taken
      · cases taken
        exact .failed
      · cases taken
  | responderReceive => exact responder_receive_moves taken
  | responderReply =>
      simp only [ackStep] at taken
      split at taken
      · rename_i phase
        cases taken
        exact .replied phase
      · cases taken
  | responderDispatch now =>
      simp only [ackStep, responderDispatch] at taken
      split at taken
      · rename_i bytes phase
        split at taken
        · cases taken
          exact .ran phase
        · cases taken
      · cases taken
  | responderAck =>
      simp only [ackStep] at taken
      split at taken
      · rename_i reply phase
        cases taken
        exact .acked phase
      · cases taken

def AckConfirmsDispatch : Prop :=
  ∀ (prims : Primitives) (call : AckCall prims) (labels : List AckLabel) (state : AckState prims),
    Run (ackStep call) anyStep call.start labels state →
    state.initiator = .returned (.ok ()) → call.frame ∈ state.dispatched

/-! ## Calls that wait out the exchange -/

/-- The exchange wait times out only if no reply can come: the offer or the
answer is too large to be sent. -/
def patient (call : AckCall prims) (_ : AckState prims) (label : AckLabel) : Prop :=
  label = .exchangeTimeout → fitsSession call.offer = false ∨ fitsSession call.answer = false

/-- Nothing is on its way to the initiator, and no exchange reply will be; the
frames in `rest` are what the responder has still to dispatch. -/
inductive Unanswered (call : AckCall prims) (rest : List Bytes) (responder : ResponderPhase)
    (toResponder toInitiator : List Bytes) : Prop where
  | untouched (large : fitsSession call.offer = false) (phase : responder = .awaitFirst)
      (queued : toResponder = rest) (empty : toInitiator = [])
  | offered (mute : fitsSession call.answer = false) (phase : responder = .awaitFirst)
      (queued : toResponder = call.offer :: rest) (empty : toInitiator = [])
  | replying (mute : fitsSession call.answer = false) (phase : responder = .replying)
      (queued : toResponder = rest) (empty : toInitiator = [])
  | settled (phase : responder = .awaitApp) (queued : toResponder = rest)
      (empty : toInitiator = [])

inductive Owed (call : AckCall prims) (responder : ResponderPhase)
    (toResponder toInitiator : List Bytes) : Prop where
  | offered (phase : responder = .awaitFirst) (queued : toResponder = [call.offer])
      (empty : toInitiator = [])
  | replying (phase : responder = .replying) (queued : toResponder = [])
      (empty : toInitiator = [])
  | replied (phase : responder = .awaitApp) (queued : toResponder = [])
      (waiting : toInitiator = [call.answer])

/-- What is known of the responder and the channels in each phase of the call. -/
def SoundAt (call : AckCall prims) (state : AckState prims) : InitiatorPhase → Prop
  | .sendExchange =>
      state.responder = .awaitFirst ∧ state.toResponder = [] ∧ state.toInitiator = []
  | .awaitExchange =>
      Unanswered call [] state.responder state.toResponder state.toInitiator ∨
        (fitsSession call.offer = true ∧ fitsSession call.answer = true ∧
          Owed call state.responder state.toResponder state.toInitiator)
  | .sendFrame => Unanswered call [] state.responder state.toResponder state.toInitiator
  | .awaitAck =>
      Unanswered call [call.frame] state.responder state.toResponder state.toInitiator ∨
        (state.responder = .dispatching call.frame ∧ state.toInitiator = []) ∨
        call.frame ∈ state.dispatched
  | .returned result => result = .ok () → call.frame ∈ state.dispatched

/-- The responder reads a frame as a control frame only when the call means it
as one. Ids drawn by `new_message_id` always satisfy the second alternative. -/
def AckCall.Distinct (call : AckCall prims) : Prop :=
  fitsSession call.offer = true ∨ looksLikeControl call.frame = false

/-- The forced bit keeps the first byte of the frame from being zero. -/
theorem drawn_frame_not_control (entropy : Octets 8) (body : Bytes) :
    looksLikeControl (frameMessage (newMessageId entropy) body) = false := by
  rcases entropy with ⟨bytes, size⟩
  cases bytes with
  | nil => cases size
  | cons first rest =>
      have forced : toBeBytes (newMessageId ⟨first :: rest, size⟩) = (first ||| 0x80) :: rest :=
        toBeBytes_fromBeBytes (by simpa using size)
      have nonzero : first ||| 0x80 ≠ 0 :=
        fun zero => absurd (UInt8.or_eq_zero_iff.mp zero).2 (by decide)
      simp [looksLikeControl, frameMessage, forced, nonzero]

theorem new_message_id_distinct (call : AckCall prims) (entropy : Octets 8)
    (drawn : call.messageId = newMessageId entropy) : call.Distinct := by
  right
  rw [AckCall.frame, drawn]
  exact drawn_frame_not_control entropy _

section Preservation

variable {rest tail : List Bytes} {bytes : Bytes} {responder : ResponderPhase}
  {toResponder toInitiator : List Bytes} {phase : InitiatorPhase}

theorem offer_is_control (call : AckCall prims) : looksLikeControl call.offer = true :=
  encode_addr_exchange_looks_like_control _

theorem Unanswered.empty (unanswered : Unanswered call rest responder toResponder toInitiator) :
    toInitiator = [] := by
  cases unanswered <;> assumption

theorem unanswered_control
    (distinct : ∀ frame ∈ rest, fitsSession call.offer = true ∨ looksLikeControl frame = false)
    (unanswered : Unanswered call rest responder toResponder toInitiator)
    (first : responder = .awaitFirst) (waiting : toResponder = bytes :: tail)
    (control : looksLikeControl bytes = true) :
    Unanswered call rest .replying tail toInitiator := by
  cases unanswered with
  | untouched large _ queued empty =>
      have listed : bytes ∈ rest := by simp [← queued, waiting]
      rcases distinct bytes listed with fits | plain
      · simp [large] at fits
      · simp [control] at plain
  | offered mute _ queued empty =>
      obtain ⟨-, rfl⟩ := List.cons.inj (waiting.symm.trans queued)
      exact .replying mute rfl rfl empty
  | replying _ other => cases first.symm.trans other
  | settled other => cases first.symm.trans other

theorem unanswered_frame (unanswered : Unanswered call rest responder toResponder toInitiator)
    (ready : responder = .awaitFirst ∧ looksLikeControl bytes = false ∨ responder = .awaitApp)
    (waiting : toResponder = bytes :: tail) : rest = bytes :: tail := by
  cases unanswered with
  | untouched _ _ queued => exact queued.symm.trans waiting
  | offered _ first queued =>
      rcases ready with ⟨-, plain⟩ | later
      · obtain ⟨rfl, -⟩ := List.cons.inj (waiting.symm.trans queued)
        simp [offer_is_control] at plain
      · cases first.symm.trans later
  | replying _ other =>
      rcases ready with ⟨first, -⟩ | later
      · cases other.symm.trans first
      · cases other.symm.trans later
  | settled _ queued => exact queued.symm.trans waiting

theorem unanswered_reply (unanswered : Unanswered call rest responder toResponder toInitiator)
    (replying : responder = .replying) :
    Unanswered call rest .awaitApp toResponder (pushFitting toInitiator call.answer) := by
  cases unanswered with
  | untouched _ other => cases replying.symm.trans other
  | offered _ other => cases replying.symm.trans other
  | replying mute _ queued empty => exact .settled rfl queued (by simp [pushFitting, mute, empty])
  | settled other => cases replying.symm.trans other

theorem unanswered_push (unanswered : Unanswered call [] responder toResponder toInitiator) :
    Unanswered call [call.frame] responder (toResponder ++ [call.frame]) toInitiator := by
  cases unanswered with
  | untouched large first queued empty => exact .untouched large first (by simp [queued]) empty
  | offered mute first queued empty => exact .offered mute first (by simp [queued]) empty
  | replying mute replying queued empty => exact .replying mute replying (by simp [queued]) empty
  | settled later queued empty => exact .settled later (by simp [queued]) empty

theorem unanswered_idle (unanswered : Unanswered call rest responder toResponder toInitiator) :
    (∀ bytes, responder ≠ .dispatching bytes) ∧ ∀ reply, responder ≠ .acknowledging reply := by
  cases unanswered <;> simp_all

theorem owed_idle (owed : Owed call responder toResponder toInitiator) :
    (∀ bytes, responder ≠ .dispatching bytes) ∧ ∀ reply, responder ≠ .acknowledging reply := by
  cases owed <;> simp_all

/-! Every step of the responder keeps what is known in each phase of the call. -/

theorem sound_control {node : NodeState prims} (distinct : call.Distinct)
    (sound : SoundAt call state phase) (first : state.responder = .awaitFirst)
    (waiting : state.toResponder = bytes :: tail) (control : looksLikeControl bytes = true) :
    SoundAt call { state with responder := .replying, toResponder := tail, node := node }
      phase := by
  cases phase with
  | sendExchange => simp [sound.2.1] at waiting
  | awaitExchange =>
      rcases sound with unanswered | ⟨offerFits, answerFits, owed⟩
      · exact .inl (unanswered_control (by simp) unanswered first waiting control)
      · refine .inr ⟨offerFits, answerFits, ?_⟩
        cases owed with
        | offered _ queued empty =>
            obtain ⟨-, rfl⟩ := List.cons.inj (waiting.symm.trans queued)
            exact .replying rfl rfl empty
        | replying other => cases first.symm.trans other
        | replied other => cases first.symm.trans other
  | sendFrame => exact unanswered_control (by simp) sound first waiting control
  | awaitAck =>
      rcases sound with unanswered | ⟨other, -⟩ | done
      · exact .inl (unanswered_control (List.forall_mem_singleton.mpr distinct) unanswered first
          waiting control)
      · cases first.symm.trans other
      · exact .inr (.inr done)
  | returned result => exact sound

theorem sound_frame (sound : SoundAt call state phase)
    (ready : state.responder = .awaitFirst ∧ looksLikeControl bytes = false ∨
      state.responder = .awaitApp)
    (waiting : state.toResponder = bytes :: tail) :
    SoundAt call { state with responder := .dispatching bytes, toResponder := tail } phase := by
  cases phase with
  | sendExchange => simp [sound.2.1] at waiting
  | awaitExchange =>
      rcases sound with unanswered | ⟨-, -, owed⟩
      · cases unanswered_frame unanswered ready waiting
      · cases owed with
        | offered first queued =>
            obtain ⟨rfl, -⟩ := List.cons.inj (waiting.symm.trans queued)
            rcases ready with ⟨-, plain⟩ | later
            · simp [offer_is_control] at plain
            · cases first.symm.trans later
        | replying _ queued => cases waiting.symm.trans queued
        | replied _ queued => cases waiting.symm.trans queued
  | sendFrame => cases unanswered_frame sound ready waiting
  | awaitAck =>
      rcases sound with unanswered | ⟨other, -⟩ | done
      · obtain ⟨rfl, -⟩ := List.cons.inj (unanswered_frame unanswered ready waiting)
        exact .inr (.inl ⟨rfl, unanswered.empty⟩)
      · rcases ready with ⟨first, -⟩ | later
        · cases other.symm.trans first
        · cases other.symm.trans later
      · exact .inr (.inr done)
  | returned result => exact sound

theorem sound_reply (sound : SoundAt call state phase) (replying : state.responder = .replying) :
    SoundAt call
      { state with
        responder := .awaitApp
        toInitiator := pushFitting state.toInitiator call.answer } phase := by
  cases phase with
  | sendExchange => cases replying.symm.trans sound.1
  | awaitExchange =>
      rcases sound with unanswered | ⟨offerFits, answerFits, owed⟩
      · exact .inl (unanswered_reply unanswered replying)
      · refine .inr ⟨offerFits, answerFits, ?_⟩
        cases owed with
        | offered other => cases replying.symm.trans other
        | replying _ queued empty =>
            exact .replied rfl queued (by simp [pushFitting, answerFits, empty])
        | replied other => cases replying.symm.trans other
  | sendFrame => exact unanswered_reply sound replying
  | awaitAck =>
      rcases sound with unanswered | ⟨other, -⟩ | done
      · exact .inl (unanswered_reply unanswered replying)
      · cases replying.symm.trans other
      · exact .inr (.inr done)
  | returned result => exact sound

theorem sound_ran {reply : Bytes} {node : NodeState prims} (sound : SoundAt call state phase)
    (dispatching : state.responder = .dispatching bytes) :
    SoundAt call
      { state with
        responder := .acknowledging reply
        node := node
        dispatched := state.dispatched ++ [bytes] } phase := by
  cases phase with
  | sendExchange => cases dispatching.symm.trans sound.1
  | awaitExchange =>
      rcases sound with unanswered | ⟨-, -, owed⟩
      · exact absurd dispatching ((unanswered_idle unanswered).1 bytes)
      · exact absurd dispatching ((owed_idle owed).1 bytes)
  | sendFrame => exact absurd dispatching ((unanswered_idle sound).1 bytes)
  | awaitAck =>
      rcases sound with unanswered | ⟨own, -⟩ | done
      · exact absurd dispatching ((unanswered_idle unanswered).1 bytes)
      · cases dispatching.symm.trans own
        exact .inr (.inr (by simp))
      · exact .inr (.inr (List.mem_append_left _ done))
  | returned result => exact fun succeeded => List.mem_append_left _ (sound succeeded)

theorem sound_acked {reply : Bytes} (sound : SoundAt call state phase)
    (acknowledging : state.responder = .acknowledging reply) :
    SoundAt call
      { state with
        responder := .awaitApp
        toInitiator := pushFitting state.toInitiator reply } phase := by
  cases phase with
  | sendExchange => cases acknowledging.symm.trans sound.1
  | awaitExchange =>
      rcases sound with unanswered | ⟨-, -, owed⟩
      · exact absurd acknowledging ((unanswered_idle unanswered).2 reply)
      · exact absurd acknowledging ((owed_idle owed).2 reply)
  | sendFrame => exact absurd acknowledging ((unanswered_idle sound).2 reply)
  | awaitAck =>
      rcases sound with unanswered | ⟨other, -⟩ | done
      · exact absurd acknowledging ((unanswered_idle unanswered).2 reply)
      · cases acknowledging.symm.trans other
      · exact .inr (.inr done)
  | returned result => exact sound

theorem sound_step (distinct : call.Distinct) (sound : SoundAt call state state.initiator)
    (allowed : patient call state label) (moved : AckMove call state label next) :
    SoundAt call next next.initiator := by
  cases moved with
  | offered phase =>
      rw [phase] at sound
      rcases sound with ⟨first, queued, empty⟩
      by_cases offerFits : fitsSession call.offer = true
      · have sent : pushFitting state.toResponder call.offer = [call.offer] := by
          simp [pushFitting, offerFits, queued]
        by_cases answerFits : fitsSession call.answer = true
        · exact .inr ⟨offerFits, answerFits, .offered first sent empty⟩
        · exact .inl (.offered (by simpa using answerFits) first sent empty)
      · have large : fitsSession call.offer = false := by simpa using offerFits
        exact .inl (.untouched large first (by simp [pushFitting, large, queued]) empty)
  | exchanged phase waiting =>
      rw [phase] at sound
      rcases sound with unanswered | ⟨-, -, owed⟩
      · cases waiting.symm.trans unanswered.empty
      · cases owed with
        | offered _ _ empty => cases waiting.symm.trans empty
        | replying _ _ empty => cases waiting.symm.trans empty
        | replied later queued answered =>
            obtain ⟨-, rfl⟩ := List.cons.inj (waiting.symm.trans answered)
            exact .settled later queued rfl
  | gaveUpExchange phase =>
      rw [phase] at sound
      rcases sound with unanswered | ⟨offerFits, answerFits, -⟩
      · exact unanswered
      · rcases allowed rfl with large | mute
        · simp [offerFits] at large
        · simp [answerFits] at mute
  | sentFrame phase =>
      rw [phase] at sound
      exact .inl (unanswered_push sound)
  | failed => exact fun succeeded => by cases succeeded
  | receivedAck phase waiting =>
      rw [phase] at sound
      rcases sound with unanswered | ⟨-, empty⟩ | done
      · cases waiting.symm.trans unanswered.empty
      · cases waiting.symm.trans empty
      · exact fun _ => done
  | tookControl phase waiting control => exact sound_control distinct sound phase waiting control
  | tookFrame phase waiting => exact sound_frame sound phase waiting
  | replied phase => exact sound_reply sound phase
  | ran phase => exact sound_ran sound phase
  | acked phase => exact sound_acked sound phase

end Preservation

/-- If the exchange wait never times out while a reply can still come, an `Ok` of
the call means that its frame has been dispatched, in every interleaving. -/
theorem ack_confirms_dispatch_patient (call : AckCall prims) (distinct : call.Distinct)
    (labels : List AckLabel) (state : AckState prims)
    (run : Run (ackStep call) (patient call) call.start labels state)
    (succeeded : state.initiator = .returned (.ok ())) : call.frame ∈ state.dispatched := by
  have sound := run_invariant (fun state => SoundAt call state state.initiator)
    (fun _ _ _ held allowed taken => sound_step distinct held allowed (ack_step_moves taken)) run
    ⟨rfl, rfl, rfl⟩
  rw [succeeded] at sound
  exact sound rfl

def sampleCall : AckCall clearPrimitives where
  sender := samplePeer 1
  peerId := samplePeer 2
  initiatorAddresses := []
  responderAddresses := []
  initiatorPeers := ∅
  responder := sampleNode 2 [1] [1, 2]
  messageId := 0x8000000000000005
  payload := directBody [42]

theorem ack_confirms_dispatch_patient_sample :
    ∃ state, execute (ackStep sampleCall) sampleCall.start
        [.sendExchange, .responderReceive, .responderReply, .receiveExchange, .sendFrame,
          .responderReceive, .responderDispatch 0, .responderAck, .receiveAck] = some state ∧
      sampleCall.frame ∈ state.dispatched := by
  have finished : ((execute (ackStep sampleCall) sampleCall.start
      [.sendExchange, .responderReceive, .responderReply, .receiveExchange, .sendFrame,
        .responderReceive, .responderDispatch 0, .responderAck, .receiveAck]).map
          fun state => state.initiator) = some (.returned (.ok ())) := by
    decide +kernel
  obtain ⟨state, reached, succeeded⟩ := Option.map_eq_some_iff.mp finished
  refine ⟨state, reached, ack_confirms_dispatch_patient sampleCall (.inl (by decide)) _ state
    (guarded_run_of_execute (fun _ => True) (fun label => label ≠ .exchangeTimeout) ?_
      (fun _ _ _ _ _ _ => trivial) trivial (by decide) reached) succeeded⟩
  exact fun _ label _ other timeout => absurd timeout other

/-! ## A late exchange reply is taken for the acknowledgement -/

theorem late_reply_taken_for_ack : ¬ AckConfirmsDispatch := by
  intro confirms
  have finished : ((execute (ackStep sampleCall) sampleCall.start
      [.sendExchange, .exchangeTimeout, .sendFrame, .responderReceive, .responderReply,
        .receiveAck]).map fun state => (state.initiator, state.dispatched)) =
      some (.returned (.ok ()), []) := by
    decide +kernel
  obtain ⟨state, reached, found⟩ := Option.map_eq_some_iff.mp finished
  obtain ⟨succeeded, never⟩ := Prod.mk.inj found
  have dispatched := confirms clearPrimitives sampleCall _ state (run_of_execute reached) succeeded
  rw [never] at dispatched
  cases dispatched

end Pathweave
