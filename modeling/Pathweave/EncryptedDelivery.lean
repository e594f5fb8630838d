import Pathweave.DeliveryAck
import Pathweave.SecureChannel

/-!
# Delivery over a network that is not trusted

A call of `try_send` and the `handle_incoming` task at the other end, now on the two ends of
a session. The network decides what each `recv_bytes` returns; a message that does not
decrypt is an error of `recv`. That error makes the initiator go on without the address
exchange or return, and it ends the task of the responder. What remains of the network is a
first-in first-out channel: every run is one of the two parties on such a channel, where a
message that is lost is one that is not read.
-/

namespace Pathweave

open ByteStrings GuardedRuns

set_option autoImplicit false

/-! ## The two ends of the session -/

namespace SecureChannel

variable (ciphers : Role → TransportCipher) (channel : SecureChannel) (party : Role)

/-- `Session::send`, with the error if nothing is encrypted. -/
def sendOn (plaintext : Bytes) (reached : Bool) : SecureChannel × Option Error :=
  match encryptMessage (ciphers party) (channel.sendNonce party) plaintext with
  | (.ok message, nonce) => (channel.write party plaintext message nonce reached, none)
  | (.error error, _) => (channel, some error)

def recvOn (received : Except Error Bytes) : SecureChannel × Except Error Bytes :=
  match secureRecv (ciphers party.other) (channel.recvNonce party) received with
  | (.ok plaintext, nonce) => (channel.accept party plaintext nonce, .ok plaintext)
  | (.error error, _) => (channel, .error error)

def undelivered : List Bytes :=
  ((channel.written party.other).map Prod.fst).drop (channel.returned party).length

end SecureChannel

variable {prims : Primitives}

structure EncryptedCall (prims : Primitives) where
  channel : SecureChannel
  initiator : InitiatorPhase
  responder : ResponderPhase
  /-- `handle_incoming` has returned. -/
  ended : Bool
  initiatorPeers : PeerTable
  node : NodeState prims
  dispatched : List Bytes

/-- `reached` is about the network, `failure` is the error of the connection. -/
inductive EncryptedLabel where
  | sendExchange (reached : Bool)
  | receiveExchange (received : Except Error Bytes)
  | exchangeTimeout
  | sendFrame (reached : Bool) (failure : Option Error)
  | receiveAck (received : Except Error Bytes)
  | ackTimeout
  | responderReceive (received : Except Error Bytes)
  | responderReply (reached : Bool)
  | responderDispatch (now : Nat)
  | responderAck (reached : Bool)

def AckCall.startEncrypted (call : AckCall prims) : EncryptedCall prims where
  channel := .start
  initiator := .sendExchange
  responder := .awaitFirst
  ended := false
  initiatorPeers := call.initiatorPeers
  node := call.responder
  dispatched := []

section Steps

variable (ciphers : Role → TransportCipher) (call : AckCall prims) (state : EncryptedCall prims)

/-- The wait for the exchange. A `recv` that fails is logged and passed over. -/
def encryptedExchange (received : Except Error Bytes) : Option (EncryptedCall prims) :=
  match state.initiator, state.channel.recvOn ciphers .initiator received with
  | .awaitExchange, (channel, .ok bytes) =>
      match decodeAddrExchange bytes with
      | .ok exchanged =>
          some { state with
            initiator := .sendFrame
            channel := channel
            initiatorPeers := mergeExchanged state.initiatorPeers call.peerId exchanged }
      | .error _ => none
  | .awaitExchange, (channel, .error _) =>
      some { state with initiator := .sendFrame, channel := channel }
  | _, _ => none

def encryptedFrame (reached : Bool) (failure : Option Error) : Option (EncryptedCall prims) :=
  match state.initiator, state.channel.sendOn ciphers .initiator call.frame reached with
  | .sendFrame, (channel, none) =>
      some { state with
        initiator := failure.elim .awaitAck fun error => .returned (.error error)
        channel := channel }
  | .sendFrame, (channel, some error) =>
      some { state with initiator := .returned (.error error), channel := channel }
  | _, _ => none

def encryptedAck (received : Except Error Bytes) : Option (EncryptedCall prims) :=
  match state.initiator, state.channel.recvOn ciphers .initiator received with
  | .awaitAck, (channel, .ok _) =>
      some { state with initiator := .returned (.ok ()), channel := channel }
  | .awaitAck, (channel, .error error) =>
      some { state with initiator := .returned (.error error), channel := channel }
  | _, _ => none

/-- What `handle_incoming` does with a message, before it replies or dispatches. -/
def encryptedTake (channel : SecureChannel) (bytes : Bytes) : Option (EncryptedCall prims) :=
  match state.responder with
  | .awaitFirst =>
      if looksLikeControl bytes then
        match decodeAddrExchange bytes with
        | .ok exchanged =>
            some { state with
              responder := .replying
              channel := channel
              node := { state.node with
                peers := mergeExchanged state.node.peers call.sender exchanged } }
        | .error _ => none
      else some { state with responder := .dispatching bytes, channel := channel }
  | .awaitApp => some { state with responder := .dispatching bytes, channel := channel }
  | _ => none

def encryptedReceive (received : Except Error Bytes) : Option (EncryptedCall prims) :=
  match state.channel.recvOn ciphers .responder received with
  | (channel, .ok bytes) => encryptedTake call state channel bytes
  | (channel, .error _) =>
      match state.responder with
      | .awaitFirst | .awaitApp => some { state with ended := true, channel := channel }
      | _ => none

def encryptedDispatch (now : Nat) : Option (EncryptedCall prims) :=
  match state.responder with
  | .dispatching bytes =>
      match dispatchPayload state.node call.sender now bytes with
      | .ok outcome =>
          some { state with
            responder := .acknowledging outcome.reply
            node := outcome.node
            dispatched := state.dispatched ++ [bytes] }
      | .error _ => none
  | _ => none

/-- The steps of `handle_incoming`. It ignores the results of its sends. -/
def encryptedResponder : EncryptedLabel → Option (EncryptedCall prims)
  | .responderReceive received => encryptedReceive ciphers call state received
  | .responderReply reached =>
      match state.responder with
      | .replying =>
          some { state with
            responder := .awaitApp
            channel := (state.channel.sendOn ciphers .responder call.answer reached).1 }
      | _ => none
  | .responderDispatch now => encryptedDispatch call state now
  | .responderAck reached =>
      match state.responder with
      | .acknowledging reply =>
          some { state with
            responder := .awaitApp
            channel := (state.channel.sendOn ciphers .responder reply reached).1 }
      | _ => none
  | _ => none

def encryptedStep : EncryptedLabel → Option (EncryptedCall prims)
  | .sendExchange reached =>
      match state.initiator with
      | .sendExchange =>
          some { state with
            initiator := .awaitExchange
            channel := (state.channel.sendOn ciphers .initiator call.offer reached).1 }
      | _ => none
  | .receiveExchange received => encryptedExchange ciphers call state received
  | .exchangeTimeout =>
      match state.initiator with
      | .awaitExchange => some { state with initiator := .sendFrame }
      | _ => none
  | .sendFrame reached failure => encryptedFrame ciphers call state reached failure
  | .receiveAck received => encryptedAck ciphers state received
  | .ackTimeout =>
      match state.initiator with
      | .awaitAck =>
          some { state with
            initiator := .returned (.error (.transport "delivery ACK timed out")) }
      | _ => none
  | label => if state.ended then none else encryptedResponder ciphers call state label

def EncryptedLabel.receives : EncryptedLabel → Option (Role × Except Error Bytes)
  | .receiveExchange received | .receiveAck received => some (.initiator, received)
  | .responderReceive received => some (.responder, received)
  | _ => none

def givesUp : EncryptedLabel → Prop
  | .exchangeTimeout => True
  | .receiveExchange received =>
      (state.channel.recvOn ciphers .initiator received).2.isOk = false
  | _ => False

end Steps

/-- The network forges no message, and the exchange is given up only if that is excused. -/
def exposed (ciphers : Role → TransportCipher) (excused : Prop) (state : EncryptedCall prims)
    (label : EncryptedLabel) : Prop :=
  (∀ party received, label.receives = some (party, received) →
    unforged ciphers state.channel (.recv party received)) ∧
  (givesUp ciphers state label → excused)

/-! ## The session as a channel -/

section Channel

variable {ciphers : Role → TransportCipher} {channel : SecureChannel} {party : Role}

theorem send_on_step (plaintext : Bytes) (reached : Bool) :
    secureStep ciphers channel (.send party plaintext reached) =
      some (channel.sendOn ciphers party plaintext reached).1 := by
  unfold secureStep SecureChannel.sendOn
  dsimp only
  generalize encryptMessage (ciphers party) (channel.sendNonce party) plaintext = encrypted
  obtain ⟨result, nonce⟩ := encrypted
  cases result <;> rfl

theorem recv_on_step (received : Except Error Bytes) :
    secureStep ciphers channel (.recv party received) =
      some (channel.recvOn ciphers party received).1 := by
  unfold secureStep SecureChannel.recvOn
  dsimp only
  generalize secureRecv (ciphers party.other) (channel.recvNonce party) received = decrypted
  obtain ⟨result, nonce⟩ := decrypted
  cases result <;> rfl

inductive SentOn (channel : SecureChannel) (party : Role) (plaintext : Bytes) :
    SecureChannel × Option Error → Prop where
  | queued {after : SecureChannel} (fits : fitsSession plaintext = true)
      (gained : ∀ reader, reader.other = party →
        after.undelivered reader = channel.undelivered reader ++ [plaintext])
      (kept : ∀ reader, reader.other ≠ party →
        after.undelivered reader = channel.undelivered reader)
      (counted : (after.written party).length = (channel.written party).length + 1)
      (uncounted : ∀ other ≠ party, after.written other = channel.written other)
      (unread : after.returned = channel.returned) :
      SentOn channel party plaintext (after, none)
  | refused {error : Error} (large : fitsSession plaintext = false) :
      SentOn channel party plaintext (channel, some error)

inductive ReadOn (channel : SecureChannel) (party : Role) :
    SecureChannel × Except Error Bytes → Prop where
  | read {after : SecureChannel} {plaintext : Bytes}
      (taken : channel.undelivered party = plaintext :: after.undelivered party)
      (kept : ∀ reader ≠ party, after.undelivered reader = channel.undelivered reader)
      (unwritten : after.written = channel.written)
      (counted : (after.returned party).length = (channel.returned party).length + 1)
      (uncounted : ∀ other ≠ party, after.returned other = channel.returned other) :
      ReadOn channel party (after, .ok plaintext)
  | failed {error : Error} : ReadOn channel party (channel, .error error)

theorem sent_on (laws : CipherLaws (ciphers party)) (held : Sequenced ciphers channel)
    (lasts : (channel.written party).length < 2 ^ 64 - 1) (plaintext : Bytes) (reached : Bool) :
    SentOn channel party plaintext (channel.sendOn ciphers party plaintext reached) := by
  unfold SecureChannel.sendOn encryptMessage
  rw [held.sent]
  cases fits : fitsSession plaintext with
  | false =>
      rw [laws.oversized _ _ fits]
      exact .refused fits
  | true =>
      obtain ⟨message, written⟩ := written_next laws fits lasts
      rw [written]
      refine .queued fits ?_ ?_ ?_ ?_ rfl
      · rintro reader rfl
        simp only [SecureChannel.undelivered, SecureChannel.write, Function.update_self,
          List.map_append, List.map_cons, List.map_nil]
        exact List.drop_append_of_le_length (held.direction reader).first.length_le
      · intro reader apart
        simp only [SecureChannel.undelivered, SecureChannel.write, Function.update_of_ne apart]
      · simp [SecureChannel.write]
      · intro other apart
        simp only [SecureChannel.write, Function.update_of_ne apart]

theorem read_on (laws : CipherLaws (ciphers party.other)) (held : Sequenced ciphers channel)
    {received : Except Error Bytes} (allowed : unforged ciphers channel (.recv party received)) :
    ReadOn channel party (channel.recvOn ciphers party received) := by
  unfold SecureChannel.recvOn secureRecv
  cases received with
  | error error => exact .failed
  | ok message =>
      cases decrypted : (ciphers party.other).readMessage (channel.recvNonce party) message with
      | error detail =>
          simp only [decrypted]
          exact .failed
      | ok opened =>
          obtain ⟨plaintext, nonce⟩ := opened
          obtain ⟨-, genuine⟩ := allowed (by rw [decrypted]; rfl)
          have turn := decrypted
          rw [held.received] at turn
          have next := accepted_place laws (held.direction party) turn genuine
          simp only [decrypted]
          refine .read ?_ ?_ rfl ?_ ?_
          · have place : ((channel.written party.other).map Prod.fst)[
                (channel.returned party).length]? = some plaintext := by
              rw [List.getElem?_map, next]
              rfl
            obtain ⟨inside, here⟩ := List.getElem?_eq_some_iff.mp place
            simp only [SecureChannel.undelivered, SecureChannel.accept, Function.update_self,
              List.length_append, List.length_singleton]
            rw [List.drop_eq_getElem_cons inside, here]
          · intro reader apart
            simp only [SecureChannel.undelivered, SecureChannel.accept,
              Function.update_of_ne apart]
          · simp [SecureChannel.accept]
          · intro other apart
            simp only [SecureChannel.accept, Function.update_of_ne apart]

end Channel

/-! ## What a step can do -/

section Moves

variable (ciphers : Role → TransportCipher) (call : AckCall prims) (state : EncryptedCall prims)

inductive EncryptedMove : EncryptedLabel → EncryptedCall prims → Prop where
  | offered {reached : Bool} (phase : state.initiator = .sendExchange) :
      EncryptedMove (.sendExchange reached) { state with
        initiator := .awaitExchange
        channel := (state.channel.sendOn ciphers .initiator call.offer reached).1 }
  | exchanged {received : Except Error Bytes} {channel : SecureChannel} {bytes : Bytes}
      {exchanged : Option (List PeerAddress)} (phase : state.initiator = .awaitExchange)
      (read : state.channel.recvOn ciphers .initiator received = (channel, .ok bytes))
      (decoded : decodeAddrExchange bytes = .ok exchanged) :
      EncryptedMove (.receiveExchange received) { state with
        initiator := .sendFrame
        channel := channel
        initiatorPeers := mergeExchanged state.initiatorPeers call.peerId exchanged }
  | unexchanged {received : Except Error Bytes} {channel : SecureChannel} {error : Error}
      (phase : state.initiator = .awaitExchange)
      (read : state.channel.recvOn ciphers .initiator received = (channel, .error error)) :
      EncryptedMove (.receiveExchange received)
        { state with initiator := .sendFrame, channel := channel }
  | gaveUp (phase : state.initiator = .awaitExchange) :
      EncryptedMove .exchangeTimeout { state with initiator := .sendFrame }
  | framed {reached : Bool} {failure : Option Error} {channel : SecureChannel}
      (phase : state.initiator = .sendFrame)
      (sent : state.channel.sendOn ciphers .initiator call.frame reached = (channel, none)) :
      EncryptedMove (.sendFrame reached failure) { state with
        initiator := failure.elim .awaitAck fun error => .returned (.error error)
        channel := channel }
  | unframed {reached : Bool} {failure : Option Error} {channel : SecureChannel} {error : Error}
      (phase : state.initiator = .sendFrame)
      (sent : state.channel.sendOn ciphers .initiator call.frame reached =
        (channel, some error)) :
      EncryptedMove (.sendFrame reached failure)
        { state with initiator := .returned (.error error), channel := channel }
  | acked {received : Except Error Bytes} {channel : SecureChannel} {bytes : Bytes}
      (phase : state.initiator = .awaitAck)
      (read : state.channel.recvOn ciphers .initiator received = (channel, .ok bytes)) :
      EncryptedMove (.receiveAck received)
        { state with initiator := .returned (.ok ()), channel := channel }
  | unacked {received : Except Error Bytes} {channel : SecureChannel} {error : Error}
      (phase : state.initiator = .awaitAck)
      (read : state.channel.recvOn ciphers .initiator received = (channel, .error error)) :
      EncryptedMove (.receiveAck received)
        { state with initiator := .returned (.error error), channel := channel }
  | timedOut {error : Error} (phase : state.initiator = .awaitAck) :
      EncryptedMove .ackTimeout { state with initiator := .returned (.error error) }
  | controlled {received : Except Error Bytes} {channel : SecureChannel} {bytes : Bytes}
      {exchanged : Option (List PeerAddress)} (phase : state.responder = .awaitFirst)
      (read : state.channel.recvOn ciphers .responder received = (channel, .ok bytes))
      (control : looksLikeControl bytes = true)
      (decoded : decodeAddrExchange bytes = .ok exchanged) :
      EncryptedMove (.responderReceive received) { state with
        responder := .replying
        channel := channel
        node := { state.node with
          peers := mergeExchanged state.node.peers call.sender exchanged } }
  | handed {received : Except Error Bytes} {channel : SecureChannel} {bytes : Bytes}
      (phase : state.responder = .awaitFirst ∧ looksLikeControl bytes = false ∨
        state.responder = .awaitApp)
      (read : state.channel.recvOn ciphers .responder received = (channel, .ok bytes)) :
      EncryptedMove (.responderReceive received)
        { state with responder := .dispatching bytes, channel := channel }
  | ended {received : Except Error Bytes} {channel : SecureChannel} {error : Error}
      (read : state.channel.recvOn ciphers .responder received = (channel, .error error)) :
      EncryptedMove (.responderReceive received)
        { state with ended := true, channel := channel }
  | replied {reached : Bool} (phase : state.responder = .replying) :
      EncryptedMove (.responderReply reached) { state with
        responder := .awaitApp
        channel := (state.channel.sendOn ciphers .responder call.answer reached).1 }
  | ran {now : Nat} {bytes : Bytes} {outcome : DispatchOutcome prims}
      (phase : state.responder = .dispatching bytes)
      (dispatched : dispatchPayload state.node call.sender now bytes = .ok outcome) :
      EncryptedMove (.responderDispatch now) { state with
        responder := .acknowledging outcome.reply
        node := outcome.node
        dispatched := state.dispatched ++ [bytes] }
  | acknowledged {reached : Bool} {reply : Bytes} (phase : state.responder = .acknowledging reply) :
      EncryptedMove (.responderAck reached) { state with
        responder := .awaitApp
        channel := (state.channel.sendOn ciphers .responder reply reached).1 }

end Moves

section Inversion

variable {ciphers : Role → TransportCipher} {call : AckCall prims}
  {state next : EncryptedCall prims}

theorem encrypted_receive_moves {received : Except Error Bytes}
    (taken : encryptedReceive ciphers call state received = some next) :
    EncryptedMove ciphers call state (.responderReceive received) next := by
  unfold encryptedReceive encryptedTake at taken
  split at taken
  · next channel bytes read =>
      split at taken
      · next phase =>
          split_ifs at taken with control
          · split at taken
            · next exchanged decoded =>
                cases taken
                exact .controlled phase read control decoded
            · cases taken
          · cases taken
            exact .handed (.inl ⟨phase, by simpa using control⟩) read
      · next phase =>
          cases taken
          exact .handed (.inr phase) read
      · cases taken
  · next channel error read =>
      split at taken
      · cases taken
        exact .ended read
      · cases taken
        exact .ended read
      · cases taken

theorem encrypted_responder_moves {label : EncryptedLabel}
    (taken : encryptedResponder ciphers call state label = some next) :
    EncryptedMove ciphers call state label next := by
  cases label with
  | responderReceive received => exact encrypted_receive_moves taken
  | responderReply reached =>
      simp only [encryptedResponder] at taken
      split at taken
      · next phase =>
          cases taken
          exact .replied phase
      · cases taken
  | responderDispatch now =>
      simp only [encryptedResponder, encryptedDispatch] at taken
      split at taken
      · next bytes phase =>
          split at taken
          · next outcome dispatched =>
              cases taken
              exact .ran phase dispatched
          · cases taken
      · cases taken
  | responderAck reached =>
      simp only [encryptedResponder] at taken
      split at taken
      · next reply phase =>
          cases taken
          exact .acknowledged phase
      · cases taken
  | _ => cases taken

theorem encrypted_step_moves {label : EncryptedLabel}
    (taken : encryptedStep ciphers call state label = some next) :
    EncryptedMove ciphers call state label next := by
  cases label with
  | sendExchange reached =>
      simp only [encryptedStep] at taken
      split at taken
      · next phase =>
          cases taken
          exact .offered phase
      · cases taken
  | receiveExchange received =>
      simp only [encryptedStep, encryptedExchange] at taken
      split at taken
      · next channel bytes phase read =>
          split at taken
          · next exchanged decoded =>
              cases taken
              exact .exchanged phase read decoded
          · cases taken
      · next channel error phase read =>
          cases taken
          exact .unexchanged phase read
      · cases taken
  | exchangeTimeout =>
      simp only [encryptedStep] at taken
      split at taken
      · next phase =>
          cases taken
          exact .gaveUp phase
      · cases taken
  | sendFrame reached failure =>
      simp only [encryptedStep, encryptedFrame] at taken
      split at taken
      · next channel phase sent =>
          cases taken
          exact .framed phase sent
      · next channel error phase sent =>
          cases taken
          exact .unframed phase sent
      · cases taken
  | receiveAck received =>
      simp only [encryptedStep, encryptedAck] at taken
      split at taken
      · next channel bytes phase read =>
          cases taken
          exact .acked phase read
      · next channel error phase read =>
          cases taken
          exact .unacked phase read
      · cases taken
  | ackTimeout =>
      simp only [encryptedStep] at taken
      split at taken
      · next phase =>
          cases taken
          exact .timedOut phase
      · cases taken
  | responderReceive _ | responderReply _ | responderDispatch _ | responderAck _ =>
      exact encrypted_responder_moves (Option.ite_none_left_eq_some.mp taken).2

end Inversion

/-! ## Counters that last -/

def InitiatorPhase.mayHaveWritten : InitiatorPhase → Nat
  | .sendExchange => 0
  | .awaitExchange | .sendFrame => 1
  | .awaitAck | .returned _ => 2

/-- A responder writes once for each message that it has read. -/
def ResponderPhase.owes : ResponderPhase → Nat
  | .awaitFirst | .awaitApp => 0
  | .replying | .dispatching _ | .acknowledging _ => 1

structure WellCounted (ciphers : Role → TransportCipher) (channel : SecureChannel)
    (initiator : InitiatorPhase) (responder : ResponderPhase) : Prop where
  sequenced : Sequenced ciphers channel
  writes : (channel.written .initiator).length ≤ initiator.mayHaveWritten
  answers : (channel.written .responder).length + responder.owes ≤
    (channel.returned .responder).length

section Counters

variable {ciphers : Role → TransportCipher} {channel after : SecureChannel}
  {initiator : InitiatorPhase} {responder : ResponderPhase} {party : Role}
  {plaintext : Bytes} {reached : Bool} {received : Except Error Bytes}

theorem well_counted_start : WellCounted ciphers .start .sendExchange .awaitFirst where
  sequenced := sequenced_start
  writes := Nat.le_refl _
  answers := Nat.le_refl _

theorem counters_last (counted : WellCounted ciphers channel initiator responder)
    (party : Role) : (channel.written party).length < 2 ^ 64 - 1 := by
  have most : initiator.mayHaveWritten ≤ 2 := by
    cases initiator <;> simp [InitiatorPhase.mayHaveWritten]
  have written := counted.writes
  cases party with
  | initiator => omega
  | responder =>
      have read := (counted.sequenced.direction .responder).first.length_le
      rw [List.length_map] at read
      have bounded : (channel.returned .responder).length ≤ 2 := read.trans (written.trans most)
      have answered := counted.answers
      omega

theorem counted_sent (laws : ∀ party, CipherLaws (ciphers party))
    (counted : WellCounted ciphers channel initiator responder) (party : Role)
    (plaintext : Bytes) (reached : Bool) :
    SentOn channel party plaintext (channel.sendOn ciphers party plaintext reached) :=
  sent_on (laws party) counted.sequenced (counters_last counted party) plaintext reached

theorem send_on_sequenced (laws : ∀ party, CipherLaws (ciphers party))
    (held : Sequenced ciphers channel) :
    Sequenced ciphers (channel.sendOn ciphers party plaintext reached).1 :=
  have allowed : unforged ciphers channel (.send party plaintext reached) := trivial
  sequenced_step laws held allowed (send_on_step plaintext reached)

theorem counted_initiator_send (later : InitiatorPhase)
    (laws : ∀ party, CipherLaws (ciphers party))
    (counted : WellCounted ciphers channel initiator responder)
    (room : initiator.mayHaveWritten + 1 ≤ later.mayHaveWritten) :
    WellCounted ciphers (channel.sendOn ciphers .initiator plaintext reached).1 later
      responder := by
  have sequenced := @send_on_sequenced _ _ .initiator plaintext reached laws counted.sequenced
  have effect := counted_sent laws counted .initiator plaintext reached
  generalize channel.sendOn ciphers .initiator plaintext reached = result at sequenced effect ⊢
  have written := counted.writes
  cases effect with
  | queued _ _ _ more uncounted unread =>
      refine ⟨sequenced, by dsimp only; omega, ?_⟩
      rw [unread, uncounted .responder (by decide)]
      exact counted.answers
  | refused => exact ⟨sequenced, by dsimp only; omega, counted.answers⟩

theorem counted_responder_send (after : ResponderPhase)
    (laws : ∀ party, CipherLaws (ciphers party))
    (counted : WellCounted ciphers channel initiator responder)
    (paid : after.owes + 1 ≤ responder.owes) :
    WellCounted ciphers (channel.sendOn ciphers .responder plaintext reached).1 initiator
      after := by
  have sequenced := @send_on_sequenced _ _ .responder plaintext reached laws counted.sequenced
  have effect := counted_sent laws counted .responder plaintext reached
  generalize channel.sendOn ciphers .responder plaintext reached = result at sequenced effect ⊢
  have answered := counted.answers
  cases effect with
  | queued _ _ _ more uncounted unread =>
      refine ⟨sequenced, ?_, ?_⟩
      · rw [uncounted .initiator (by decide)]
        exact counted.writes
      · dsimp only
        rw [unread]
        omega
  | refused => exact ⟨sequenced, counted.writes, by dsimp only; omega⟩

theorem counted_read (laws : ∀ party, CipherLaws (ciphers party))
    (counted : WellCounted ciphers channel initiator responder)
    (allowed : unforged ciphers channel (.recv party received)) :
    Sequenced ciphers (channel.recvOn ciphers party received).1 ∧
      ReadOn channel party (channel.recvOn ciphers party received) :=
  ⟨sequenced_step laws counted.sequenced allowed (recv_on_step received),
    read_on (laws _) counted.sequenced allowed⟩

theorem counted_initiator_read (later : InitiatorPhase) {result : Except Error Bytes}
    (laws : ∀ party, CipherLaws (ciphers party))
    (counted : WellCounted ciphers channel initiator responder)
    (allowed : unforged ciphers channel (.recv .initiator received))
    (read : channel.recvOn ciphers .initiator received = (after, result))
    (room : initiator.mayHaveWritten ≤ later.mayHaveWritten) :
    WellCounted ciphers after later responder := by
  obtain ⟨sequenced, effect⟩ := counted_read laws counted allowed
  rw [read] at sequenced effect
  cases effect with
  | read _ _ unwritten _ uncounted =>
      refine ⟨sequenced, ?_, ?_⟩
      · rw [unwritten]
        exact counted.writes.trans room
      · rw [unwritten, uncounted .responder (by decide)]
        exact counted.answers
  | failed => exact ⟨sequenced, counted.writes.trans room, counted.answers⟩

theorem counted_responder_read (next : ResponderPhase) {bytes : Bytes}
    (laws : ∀ party, CipherLaws (ciphers party))
    (counted : WellCounted ciphers channel initiator responder)
    (allowed : unforged ciphers channel (.recv .responder received))
    (read : channel.recvOn ciphers .responder received = (after, .ok bytes))
    (debt : next.owes ≤ responder.owes + 1) : WellCounted ciphers after initiator next := by
  obtain ⟨sequenced, effect⟩ := counted_read laws counted allowed
  rw [read] at sequenced effect
  cases effect with
  | read _ _ unwritten more =>
      have answered := counted.answers
      refine ⟨sequenced, ?_, ?_⟩
      · rw [unwritten]
        exact counted.writes
      · rw [unwritten, more]
        omega

end Counters

/-! ## The two parties on a first-in first-out channel -/

/-- The call as one over a channel that holds what was written and not read. -/
def EncryptedCall.picture (state : EncryptedCall prims) (phase : InitiatorPhase) :
    AckState prims where
  initiator := phase
  responder := state.responder
  toResponder := state.channel.undelivered .responder
  toInitiator := state.channel.undelivered .initiator
  initiatorPeers := state.initiatorPeers
  node := state.node
  dispatched := state.dispatched

/-- The same phase, up to the error that is returned. -/
inductive SameReturn : InitiatorPhase → InitiatorPhase → Prop where
  | same (phase : InitiatorPhase) : SameReturn phase phase
  | failed (error other : Error) : SameReturn (.returned (.error error)) (.returned (.error other))

def Pictured (ciphers : Role → TransportCipher) (state : EncryptedCall prims)
    (ack : AckState prims) : Prop :=
  WellCounted ciphers state.channel state.initiator state.responder ∧
    ∃ phase, SameReturn state.initiator phase ∧ ack = state.picture phase

/-- The exchange wait ends without a reply only if that is excused. -/
def excusing (excused : Prop) (_ : AckState prims) (label : AckLabel) : Prop :=
  label = .exchangeTimeout → excused

section Pictures

variable {ciphers : Role → TransportCipher} {call : AckCall prims}
  {state next : EncryptedCall prims} {label : EncryptedLabel} {excused : Prop}

theorem sent_undelivered {channel : SecureChannel} {party : Role} {plaintext : Bytes}
    {result : SecureChannel × Option Error} (effect : SentOn channel party plaintext result) :
    (∀ reader, reader.other = party →
        result.1.undelivered reader = pushFitting (channel.undelivered reader) plaintext) ∧
      ∀ reader, reader.other ≠ party →
        result.1.undelivered reader = channel.undelivered reader := by
  cases effect with
  | queued fits gained kept =>
      refine ⟨fun reader own => ?_, kept⟩
      rw [pushFitting, if_pos fits]
      exact gained reader own
  | refused large =>
      refine ⟨fun reader own => ?_, fun _ _ => rfl⟩
      rw [pushFitting, large]
      rfl

theorem pictured_one {ack : AckState prims} (act : AckLabel) {phase : InitiatorPhase}
    (counted : WellCounted ciphers next.channel next.initiator next.responder)
    (same : SameReturn next.initiator phase)
    (taken : ackStep call ack act = some (next.picture phase))
    (allowed : excusing excused ack act) :
    ∃ acts after, Run (ackStep call) (excusing excused) ack acts after ∧
      Pictured ciphers next after :=
  ⟨[act], _, run_one taken allowed, counted, phase, same, rfl⟩

theorem matched_step (laws : ∀ party, CipherLaws (ciphers party)) {ack : AckState prims}
    (pictured : Pictured ciphers state ack) (allowed : exposed ciphers excused state label)
    (moved : EncryptedMove ciphers call state label next) :
    ∃ acts after, Run (ackStep call) (excusing excused) ack acts after ∧
      Pictured ciphers next after := by
  obtain ⟨counted, phase, same, rfl⟩ := pictured
  obtain ⟨unforged, excuse⟩ := allowed
  cases moved with
  | @offered reached start =>
      rw [start] at counted same
      cases same
      obtain ⟨gained, kept⟩ :=
        sent_undelivered (counted_sent laws counted .initiator call.offer reached)
      refine pictured_one .sendExchange
        (counted_initiator_send .awaitExchange laws counted (Nat.le_refl _)) (.same _) ?_
        (by rintro ⟨⟩)
      simp only [ackStep, EncryptedCall.picture, gained .responder rfl, kept .initiator (by decide)]
  | @exchanged received channel bytes exchanged waits read decoded =>
      rw [waits] at counted same
      cases same
      have after := counted_initiator_read .sendFrame laws counted (unforged _ _ rfl) read
        (Nat.le_refl _)
      have effect := (counted_read laws counted (unforged .initiator received rfl)).2
      rw [read] at effect
      cases effect with
      | read taken kept =>
          refine pictured_one .receiveExchange after (.same _) ?_ (by rintro ⟨⟩)
          simp only [ackStep, initiatorReceiveExchange, EncryptedCall.picture, taken, decoded,
            kept .responder (by decide)]
  | @unexchanged received channel error waits read =>
      rw [waits] at counted same
      cases same
      have after := counted_initiator_read .sendFrame laws counted (unforged _ _ rfl) read
        (Nat.le_refl _)
      have effect := (counted_read laws counted (unforged .initiator received rfl)).2
      rw [read] at effect
      cases effect
      refine pictured_one .exchangeTimeout after (.same _) rfl fun _ => excuse ?_
      rw [givesUp, read]
      rfl
  | gaveUp waits =>
      rw [waits] at counted same
      cases same
      exact pictured_one .exchangeTimeout ⟨counted.sequenced, counted.writes, counted.answers⟩
        (.same _) rfl fun _ => excuse trivial
  | @framed reached failure channel ready sent =>
      rw [ready] at counted same
      cases same
      have after : WellCounted ciphers channel .awaitAck state.responder := by
        have written := @counted_initiator_send ciphers _ _ _ call.frame reached .awaitAck laws
          counted (Nat.le_refl _)
        rwa [sent] at written
      have effect := counted_sent laws counted .initiator call.frame reached
      rw [sent] at effect
      cases effect with
      | queued fits gained kept =>
          have taken : ackStep call (state.picture .sendFrame) .sendFrame =
              some (EncryptedCall.picture { state with channel := channel } .awaitAck) := by
            simp only [ackStep, initiatorSendFrame, EncryptedCall.picture, fits,
              gained .responder rfl, kept .initiator (by decide), if_true]
          cases failure with
          | none => exact pictured_one .sendFrame after (.same _) taken (by rintro ⟨⟩)
          | some error =>
              -- The connection fails behind the encryption: the number is used up all the same.
              refine ⟨[.sendFrame] ++ [.ackTimeout], _,
                run_append (run_one taken (by rintro ⟨⟩)) (run_one rfl (by rintro ⟨⟩)), ?_, _,
                .failed _ _, rfl⟩
              exact ⟨after.sequenced, after.writes, after.answers⟩
  | @unframed reached failure channel error ready sent =>
      rw [ready] at counted same
      cases same
      have effect := counted_sent laws counted .initiator call.frame reached
      rw [sent] at effect
      cases effect with
      | refused large =>
          refine pictured_one .sendFrame
            ⟨counted.sequenced, counted.writes.trans (Nat.le_succ 1), counted.answers⟩
            (.failed error (.session "input error")) ?_ (by rintro ⟨⟩)
          simp only [ackStep, initiatorSendFrame, EncryptedCall.picture, large]
          rfl
  | @acked received channel bytes waits read =>
      rw [waits] at counted same
      cases same
      have after := counted_initiator_read (.returned (.ok ())) laws counted (unforged _ _ rfl)
        read (Nat.le_refl _)
      have effect := (counted_read laws counted (unforged .initiator received rfl)).2
      rw [read] at effect
      cases effect with
      | read taken kept =>
          refine pictured_one .receiveAck after (.same _) ?_ (by rintro ⟨⟩)
          simp only [ackStep, EncryptedCall.picture, taken, kept .responder (by decide)]
  | @unacked received channel error waits read =>
      rw [waits] at counted same
      cases same
      have after := counted_initiator_read (.returned (.error error)) laws counted
        (unforged _ _ rfl) read (Nat.le_refl _)
      have effect := (counted_read laws counted (unforged .initiator received rfl)).2
      rw [read] at effect
      cases effect
      exact pictured_one .ackTimeout after (.failed _ _) rfl (by rintro ⟨⟩)
  | timedOut waits =>
      rw [waits] at counted same
      cases same
      exact pictured_one .ackTimeout ⟨counted.sequenced, counted.writes, counted.answers⟩
        (.failed _ _) rfl (by rintro ⟨⟩)
  | @controlled received channel bytes exchanged waits read control decoded =>
      have after := counted_responder_read .replying laws counted (unforged _ _ rfl) read
        (by rw [waits]; exact Nat.le_refl _)
      have effect := (counted_read laws counted (unforged .responder received rfl)).2
      rw [read] at effect
      cases effect with
      | read taken kept =>
          refine pictured_one .responderReceive after same ?_ (by rintro ⟨⟩)
          simp only [ackStep, responderReceive, EncryptedCall.picture, waits, taken, control,
            decoded, kept .initiator (by decide), if_true]
  | @handed received channel bytes waits read =>
      have after := counted_responder_read (.dispatching bytes) laws counted (unforged _ _ rfl)
        read (Nat.succ_le_succ (Nat.zero_le _))
      have effect := (counted_read laws counted (unforged .responder received rfl)).2
      rw [read] at effect
      cases effect with
      | read taken kept =>
          refine pictured_one .responderReceive after same ?_ (by rintro ⟨⟩)
          rcases waits with ⟨first, plain⟩ | later
          · simp only [ackStep, responderReceive, EncryptedCall.picture, first, taken, plain,
              kept .initiator (by decide)]
            rfl
          · simp only [ackStep, responderReceive, EncryptedCall.picture, later, taken,
              kept .initiator (by decide)]
  | @ended received channel error read =>
      have effect := (counted_read laws counted (unforged .responder received rfl)).2
      rw [read] at effect
      cases effect
      exact ⟨[], _, .start, counted, phase, same, rfl⟩
  | @replied reached replying =>
      obtain ⟨gained, kept⟩ :=
        sent_undelivered (counted_sent laws counted .responder call.answer reached)
      refine pictured_one .responderReply (counted_responder_send .awaitApp laws counted
        (by rw [replying]; exact Nat.le_refl _)) same ?_ (by rintro ⟨⟩)
      simp only [ackStep, EncryptedCall.picture, replying, gained .initiator rfl,
        kept .responder (by decide)]
  | @ran now bytes outcome dispatching dispatched =>
      have owed := counted.answers
      rw [dispatching] at owed
      refine pictured_one (.responderDispatch now)
        ⟨counted.sequenced, counted.writes, owed⟩ same ?_ (by rintro ⟨⟩)
      simp only [ackStep, responderDispatch, EncryptedCall.picture, dispatching, dispatched]
  | @acknowledged reached reply acknowledging =>
      obtain ⟨gained, kept⟩ := sent_undelivered (counted_sent laws counted .responder reply reached)
      refine pictured_one .responderAck (counted_responder_send .awaitApp laws counted
        (by rw [acknowledging]; exact Nat.le_refl _)) same ?_ (by rintro ⟨⟩)
      simp only [ackStep, EncryptedCall.picture, acknowledging, gained .initiator rfl,
        kept .responder (by decide)]

end Pictures

/-- Every run on the session is one of the two parties on the channel. -/
theorem encrypted_pictured {ciphers : Role → TransportCipher} {call : AckCall prims}
    {excused : Prop} (laws : ∀ party, CipherLaws (ciphers party)) {labels : List EncryptedLabel}
    {state : EncryptedCall prims}
    (run : Run (encryptedStep ciphers call) (exposed ciphers excused) call.startEncrypted labels
      state) :
    ∃ acts ack, Run (ackStep call) (excusing excused) call.start acts ack ∧
      Pictured ciphers state ack := by
  refine run_simulated (Pictured ciphers) ?_ run ⟨well_counted_start, _, .same _, rfl⟩
  intro before label after ack pictured allowed taken
  exact matched_step laws pictured allowed (encrypted_step_moves taken)

end Pathweave
