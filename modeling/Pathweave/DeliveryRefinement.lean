import Pathweave.EncryptedDelivery

/-!
# What the network can make of a delivery

The session is a first-in first-out channel, and no better one: a network that loses nothing
lets the two parties do whatever they could do on the channel. So exactly the outcomes of
the channel are possible. Among them is an `Ok` for a frame that is never dispatched, after
the exchange was given up. Without that an `Ok` means that the frame was dispatched, once and
with nothing else, whatever the network repeats or invents.
-/

namespace Pathweave

open ByteStrings GuardedRuns

set_option autoImplicit false

variable {prims : Primitives}

/-! ## An honest network -/

def AllSeen (channel : SecureChannel) : Prop :=
  ∀ party, ∀ entry ∈ channel.written party, entry.2 ∈ channel.wire

def AckLabel.ofResponder : AckLabel → Bool
  | .responderReceive | .responderReply | .responderDispatch _ | .responderAck => true
  | _ => false

structure Realises (ciphers : Role → TransportCipher) (ack : AckState prims)
    (state : EncryptedCall prims) : Prop where
  counted : WellCounted ciphers state.channel state.initiator state.responder
  seen : AllSeen state.channel
  running : state.ended = false
  drawn : ack = state.picture state.initiator

section Honest

variable {ciphers : Role → TransportCipher} {call : AckCall prims}
  {state : EncryptedCall prims} {ack after : AckState prims} {act : AckLabel} {excused : Prop}

theorem seen_send {channel : SecureChannel} (seen : AllSeen channel) (party : Role)
    (plaintext : Bytes) : AllSeen (channel.sendOn ciphers party plaintext true).1 := by
  unfold SecureChannel.sendOn
  split
  · next message nonce written =>
      intro other entry listed
      simp only [SecureChannel.write, if_true] at listed ⊢
      by_cases own : other = party
      · subst own
        rw [Function.update_self] at listed
        rcases List.mem_append.mp listed with old | new
        · exact List.mem_append_left _ (seen other entry old)
        · rw [List.mem_singleton.mp new]
          exact List.mem_append_right _ (List.mem_singleton_self _)
      · rw [Function.update_of_ne own] at listed
        exact List.mem_append_left _ (seen other entry listed)
  · exact seen

theorem next_delivered {channel : SecureChannel} {party : Role} {bytes : Bytes}
    {rest : List Bytes} (laws : ∀ party, CipherLaws (ciphers party))
    (sequenced : Sequenced ciphers channel) (seen : AllSeen channel)
    (waiting : channel.undelivered party = bytes :: rest) :
    ∃ message later, unforged ciphers channel (.recv party (.ok message)) ∧
      channel.recvOn ciphers party (.ok message) = (later, .ok bytes) ∧ AllSeen later := by
  have place : ((channel.written party.other).map Prod.fst)[
      (channel.returned party).length]? = some bytes := by
    have first := congrArg List.head? waiting
    rwa [SecureChannel.undelivered, List.head?_drop] at first
  rw [List.getElem?_map, Option.map_eq_some_iff] at place
  obtain ⟨entry, found, rfl⟩ := place
  have listed := List.mem_of_getElem? found
  have written := (sequenced.direction party).numbered _ _ found
  have decrypted := (laws party.other).undone _ _ _ _ written
  rw [← sequenced.received] at decrypted
  refine ⟨entry.2, channel.accept party entry.1 (channel.recvNonce party + 1),
    fun _ => ⟨seen _ _ listed, entry, listed, rfl⟩, ?_, seen⟩
  simp only [SecureChannel.recvOn, secureRecv, decrypted]

theorem next_read {channel : SecureChannel} {initiator : InitiatorPhase}
    {responder : ResponderPhase} {party : Role} {bytes : Bytes} {rest : List Bytes}
    (laws : ∀ party, CipherLaws (ciphers party))
    (counted : WellCounted ciphers channel initiator responder) (seen : AllSeen channel)
    (waiting : channel.undelivered party = bytes :: rest) :
    ∃ message later, unforged ciphers channel (.recv party (.ok message)) ∧
      channel.recvOn ciphers party (.ok message) = (later, .ok bytes) ∧ AllSeen later ∧
      later.undelivered party = rest ∧
      ∀ reader ≠ party, later.undelivered reader = channel.undelivered reader := by
  obtain ⟨message, later, genuine, read, all⟩ :=
    next_delivered laws counted.sequenced seen waiting
  have effect := (counted_read laws counted genuine).2
  rw [read] at effect
  refine ⟨message, later, genuine, read, all, ?_⟩
  cases effect with
  | read taken kept =>
      rw [waiting] at taken
      exact ⟨(List.cons.inj taken).2.symm, kept⟩

theorem exposed_silent {label : EncryptedLabel} (silent : label.receives = none)
    (waits : givesUp ciphers state label → excused) : exposed ciphers excused state label := by
  refine ⟨?_, waits⟩
  rw [silent]
  rintro _ _ ⟨⟩

theorem exposed_read {label : EncryptedLabel} {party : Role} {received : Except Error Bytes}
    (reads : label.receives = some (party, received))
    (genuine : unforged ciphers state.channel (.recv party received))
    (waits : givesUp ciphers state label → excused) : exposed ciphers excused state label := by
  refine ⟨?_, waits⟩
  rw [reads]
  rintro _ _ ⟨⟩
  exact genuine

theorem realised_one (label : EncryptedLabel) (next : EncryptedCall prims)
    (taken : encryptedStep ciphers call state label = some next)
    (allowed : exposed ciphers excused state label) (realises : Realises ciphers after next) :
    ∃ labels last, Run (encryptedStep ciphers call) (exposed ciphers excused) state labels last ∧
      Realises ciphers after last :=
  ⟨[label], next, run_one taken allowed, realises⟩

theorem realised_initiator (laws : ∀ party, CipherLaws (ciphers party))
    (realises : Realises ciphers ack state) (allowed : excusing excused ack act)
    (own : act.ofResponder = false) (taken : ackStep call ack act = some after) :
    ∃ labels last, Run (encryptedStep ciphers call) (exposed ciphers excused) state labels last ∧
      Realises ciphers after last := by
  obtain ⟨counted, seen, running, rfl⟩ := realises
  cases act with
  | sendExchange =>
      simp only [ackStep, EncryptedCall.picture] at taken
      split at taken
      · next phase =>
          cases taken
          rw [phase] at counted
          obtain ⟨gained, kept⟩ :=
            sent_undelivered (counted_sent laws counted .initiator call.offer true)
          refine realised_one (.sendExchange true)
            { state with
              initiator := .awaitExchange
              channel := (state.channel.sendOn ciphers .initiator call.offer true).1 }
            (by simp only [encryptedStep, phase]) (exposed_silent rfl False.elim)
            ⟨counted_initiator_send _ laws counted (Nat.le_refl _), seen_send seen _ _, running,
              ?_⟩
          simp only [EncryptedCall.picture, gained .responder rfl, kept .initiator (by decide)]
      · cases taken
  | receiveExchange =>
      simp only [ackStep, initiatorReceiveExchange, EncryptedCall.picture] at taken
      split at taken
      · next bytes rest phase waiting =>
          split at taken
          · next exchanged decoded =>
              cases taken
              rw [phase] at counted
              obtain ⟨message, later, genuine, read, all, remaining, kept⟩ :=
                next_read laws counted seen waiting
              refine realised_one (.receiveExchange (.ok message))
                { state with
                  initiator := .sendFrame
                  channel := later
                  initiatorPeers := mergeExchanged state.initiatorPeers call.peerId exchanged }
                (by simp only [encryptedStep, encryptedExchange, phase, read, decoded])
                (exposed_read rfl genuine ?_)
                ⟨counted_initiator_read _ laws counted genuine read (Nat.le_refl _), all, running,
                  ?_⟩
              · intro given
                rw [givesUp, read] at given
                cases given
              · simp only [EncryptedCall.picture, remaining, kept .responder (by decide)]
          · cases taken
      · cases taken
  | exchangeTimeout =>
      simp only [ackStep, EncryptedCall.picture] at taken
      split at taken
      · next phase =>
          cases taken
          rw [phase] at counted
          exact realised_one .exchangeTimeout { state with initiator := .sendFrame }
            (by simp only [encryptedStep, phase]) (exposed_silent rfl fun _ => allowed rfl)
            ⟨⟨counted.sequenced, counted.writes, counted.answers⟩, seen, running, rfl⟩
      · cases taken
  | sendFrame =>
      simp only [ackStep, initiatorSendFrame, EncryptedCall.picture] at taken
      split at taken
      · next phase =>
          rw [phase] at counted
          have after := @counted_initiator_send ciphers _ _ _ call.frame true .awaitAck laws
            counted (Nat.le_refl _)
          have all := @seen_send ciphers _ seen .initiator call.frame
          have effect := counted_sent laws counted .initiator call.frame true
          generalize sent : state.channel.sendOn ciphers .initiator call.frame true = result
            at after all effect
          cases effect with
          | @queued later fits gained kept =>
              rw [if_pos fits] at taken
              cases taken
              refine realised_one (.sendFrame true none)
                { state with initiator := .awaitAck, channel := later }
                (by simp only [encryptedStep, encryptedFrame, phase, sent]; rfl)
                (exposed_silent rfl False.elim) ⟨after, all, running, ?_⟩
              simp only [EncryptedCall.picture, gained .responder rfl, kept .initiator (by decide)]
          | @refused error large =>
              rw [large] at taken
              cases taken
              have why : error = .session "input error" := by
                unfold SecureChannel.sendOn encryptMessage at sent
                rw [(laws .initiator).oversized _ _ large] at sent
                cases sent
                rfl
              subst why
              exact realised_one (.sendFrame true none)
                { state with initiator := .returned (.error (.session "input error")) }
                (by simp only [encryptedStep, encryptedFrame, phase, sent])
                (exposed_silent rfl False.elim)
                ⟨⟨after.sequenced, after.writes, after.answers⟩, seen, running, rfl⟩
      · cases taken
  | receiveAck =>
      simp only [ackStep, EncryptedCall.picture] at taken
      split at taken
      · next bytes rest phase waiting =>
          cases taken
          rw [phase] at counted
          obtain ⟨message, later, genuine, read, all, remaining, kept⟩ :=
            next_read laws counted seen waiting
          refine realised_one (.receiveAck (.ok message))
            { state with initiator := .returned (.ok ()), channel := later }
            (by simp only [encryptedStep, encryptedAck, phase, read])
            (exposed_read rfl genuine False.elim)
            ⟨counted_initiator_read _ laws counted genuine read (Nat.le_refl _), all, running, ?_⟩
          simp only [EncryptedCall.picture, remaining, kept .responder (by decide)]
      · cases taken
  | ackTimeout =>
      simp only [ackStep, EncryptedCall.picture] at taken
      split at taken
      · next phase =>
          cases taken
          rw [phase] at counted
          exact realised_one .ackTimeout
            { state with
              initiator := .returned (.error (.transport "delivery ACK timed out")) }
            (by simp only [encryptedStep, phase]) (exposed_silent rfl False.elim)
            ⟨⟨counted.sequenced, counted.writes, counted.answers⟩, seen, running, rfl⟩
      · cases taken
  | responderReceive | responderReply | responderDispatch _ | responderAck => cases own

theorem take_pictured {phase : InitiatorPhase}
    (taken : responderReceive call (state.picture phase) = some after) :
    ∃ bytes rest, state.channel.undelivered .responder = bytes :: rest ∧
      state.responder.owes = 0 ∧
      ∀ later : SecureChannel, later.undelivered .responder = rest →
        later.undelivered .initiator = state.channel.undelivered .initiator →
        ∃ responder node,
          encryptedTake call state later bytes =
            some { state with responder := responder, channel := later, node := node } ∧
          responder.owes = 1 ∧
          after = EncryptedCall.picture
            { state with responder := responder, channel := later, node := node } phase := by
  simp only [responderReceive, EncryptedCall.picture] at taken
  split at taken
  · next bytes rest first waiting =>
      refine ⟨bytes, rest, waiting, by rw [first]; rfl, fun later remaining kept => ?_⟩
      split_ifs at taken with control
      · split at taken
        · next exchanged decoded =>
            cases taken
            refine ⟨.replying, _, by simp only [encryptedTake, first, control, decoded]; rfl, rfl,
              ?_⟩
            simp only [EncryptedCall.picture, remaining, kept]
        · cases taken
      · cases taken
        refine ⟨.dispatching bytes, state.node,
          by simp only [encryptedTake, first, if_neg control], rfl, ?_⟩
        simp only [EncryptedCall.picture, remaining, kept]
  · next bytes rest later waiting =>
      refine ⟨bytes, rest, waiting, by rw [later]; rfl, fun channel remaining kept => ?_⟩
      cases taken
      refine ⟨.dispatching bytes, state.node, by simp only [encryptedTake, later], rfl, ?_⟩
      simp only [EncryptedCall.picture, remaining, kept]
  · cases taken

theorem realised_responder (laws : ∀ party, CipherLaws (ciphers party))
    (realises : Realises ciphers ack state) (own : act.ofResponder = true)
    (taken : ackStep call ack act = some after) :
    ∃ labels last, Run (encryptedStep ciphers call) (exposed ciphers excused) state labels last ∧
      Realises ciphers after last := by
  obtain ⟨counted, seen, running, rfl⟩ := realises
  cases act with
  | responderReceive =>
      obtain ⟨bytes, rest, waiting, idle, takes⟩ := take_pictured taken
      obtain ⟨message, later, genuine, read, all, remaining, kept⟩ :=
        next_read laws counted seen waiting
      obtain ⟨responder, node, took, owes, drawn⟩ :=
        takes later remaining (kept .initiator (by decide))
      refine realised_one (.responderReceive (.ok message))
        { state with responder := responder, channel := later, node := node }
        ?_ (exposed_read rfl genuine False.elim)
        ⟨counted_responder_read _ laws counted genuine read (by rw [owes, idle]), all, running,
          drawn⟩
      simp only [encryptedStep, running, encryptedResponder, encryptedReceive, read, took]
      rfl
  | responderReply =>
      simp only [ackStep, EncryptedCall.picture] at taken
      split at taken
      · next phase =>
          cases taken
          obtain ⟨gained, kept⟩ :=
            sent_undelivered (counted_sent laws counted .responder call.answer true)
          refine realised_one (.responderReply true)
            { state with
              responder := .awaitApp
              channel := (state.channel.sendOn ciphers .responder call.answer true).1 }
            ?_ (exposed_silent rfl False.elim)
            ⟨counted_responder_send _ laws counted (by rw [phase]; rfl), seen_send seen _ _,
              running, ?_⟩
          · simp only [encryptedStep, running, encryptedResponder, phase]
            rfl
          · simp only [EncryptedCall.picture, gained .initiator rfl, kept .responder (by decide)]
      · cases taken
  | responderDispatch now =>
      simp only [ackStep, responderDispatch, EncryptedCall.picture] at taken
      split at taken
      · next bytes phase =>
          split at taken
          · next outcome dispatched =>
              cases taken
              have owed := counted.answers
              rw [phase] at owed
              refine realised_one (.responderDispatch now)
                { state with
                  responder := .acknowledging outcome.reply
                  node := outcome.node
                  dispatched := state.dispatched ++ [bytes] }
                ?_ (exposed_silent rfl False.elim)
                ⟨⟨counted.sequenced, counted.writes, owed⟩, seen, running, rfl⟩
              simp only [encryptedStep, running, encryptedResponder, encryptedDispatch, phase,
                dispatched]
              rfl
          · cases taken
      · cases taken
  | responderAck =>
      simp only [ackStep, EncryptedCall.picture] at taken
      split at taken
      · next reply phase =>
          cases taken
          obtain ⟨gained, kept⟩ :=
            sent_undelivered (counted_sent laws counted .responder reply true)
          refine realised_one (.responderAck true)
            { state with
              responder := .awaitApp
              channel := (state.channel.sendOn ciphers .responder reply true).1 }
            ?_ (exposed_silent rfl False.elim)
            ⟨counted_responder_send _ laws counted (by rw [phase]; rfl), seen_send seen _ _,
              running, ?_⟩
          · simp only [encryptedStep, running, encryptedResponder, phase]
            rfl
          · simp only [EncryptedCall.picture, gained .initiator rfl, kept .responder (by decide)]
      · cases taken
  | sendExchange | receiveExchange | exchangeTimeout | sendFrame | receiveAck | ackTimeout =>
      cases own

theorem realised_step (laws : ∀ party, CipherLaws (ciphers party))
    (realises : Realises ciphers ack state) (allowed : excusing excused ack act)
    (taken : ackStep call ack act = some after) :
    ∃ labels last, Run (encryptedStep ciphers call) (exposed ciphers excused) state labels last ∧
      Realises ciphers after last := by
  cases own : act.ofResponder with
  | false => exact realised_initiator laws realises allowed own taken
  | true => exact realised_responder laws realises own taken

end Honest

/-! ## Outcomes -/

theorem realises_start {ciphers : Role → TransportCipher} (call : AckCall prims) :
    Realises ciphers call.start call.startEncrypted :=
  ⟨well_counted_start, fun _ _ listed => absurd listed List.not_mem_nil, rfl, rfl⟩

def InitiatorPhase.reported : InitiatorPhase → Option Bool
  | .returned result => some result.isOk
  | _ => none

theorem same_return_reported {phase other : InitiatorPhase} (same : SameReturn phase other) :
    other.reported = phase.reported := by
  cases same <;> rfl

theorem excusing_true (ack : AckState prims) (act : AckLabel) : excusing True ack act :=
  fun _ => trivial

/-- On a network that may lose, repeat, reorder and invent messages the call can return, the
responder can dispatch and both can learn addresses exactly as on a first-in first-out
channel between them. -/
theorem encrypted_outcomes_iff {ciphers : Role → TransportCipher}
    (laws : ∀ party, CipherLaws (ciphers party)) (call : AckCall prims) (reported : Option Bool)
    (dispatched : List Bytes) (node : NodeState prims) (peers : PeerTable) :
    (∃ labels state, Run (encryptedStep ciphers call) (exposed ciphers True) call.startEncrypted
        labels state ∧ state.initiator.reported = reported ∧ state.dispatched = dispatched ∧
        state.node = node ∧ state.initiatorPeers = peers) ↔
      ∃ acts ack, Run (ackStep call) anyStep call.start acts ack ∧
        ack.initiator.reported = reported ∧ ack.dispatched = dispatched ∧ ack.node = node ∧
        ack.initiatorPeers = peers := by
  constructor
  · rintro ⟨labels, state, run, rfl, rfl, rfl, rfl⟩
    obtain ⟨acts, ack, walked, -, phase, same, rfl⟩ := encrypted_pictured laws run
    exact ⟨acts, _, run_weaken (fun _ _ _ => trivial) walked, same_return_reported same, rfl, rfl,
      rfl⟩
  · rintro ⟨acts, ack, run, rfl, rfl, rfl, rfl⟩
    obtain ⟨labels, state, walked, realises⟩ := run_simulated (Realises ciphers)
      (fun _ _ _ _ held allowed taken => realised_step laws held allowed taken)
      (run_weaken (fun ack act _ => excusing_true ack act) run) (realises_start call)
    obtain ⟨-, -, -, rfl⟩ := realises
    exact ⟨labels, state, walked, rfl, rfl, rfl, rfl⟩

/-- The late reply to the exchange is taken for the acknowledgement on the session too. -/
theorem encrypted_outcomes_iff_late :
    ∃ labels state, Run (encryptedStep (fun _ => numberedCipher) sampleCall)
        (exposed (fun _ => numberedCipher) True) sampleCall.startEncrypted labels state ∧
      state.initiator.reported = some true ∧ state.dispatched = [] := by
  have finished : ((execute (ackStep sampleCall) sampleCall.start
      [.sendExchange, .exchangeTimeout, .sendFrame, .responderReceive, .responderReply,
        .receiveAck]).map fun ack => (ack.initiator.reported, ack.dispatched)) =
      some (some true, []) := by
    decide +kernel
  obtain ⟨ack, reached, found⟩ := Option.map_eq_some_iff.mp finished
  obtain ⟨returned, never⟩ := Prod.mk.inj found
  obtain ⟨labels, state, run, reported, dispatched, -⟩ :=
    (encrypted_outcomes_iff (fun _ => numbered_cipher_laws) sampleCall (some true) [] ack.node
      ack.initiatorPeers).mpr ⟨_, ack, run_of_execute reached, returned, never, rfl, rfl⟩
  exact ⟨labels, state, run, reported, dispatched⟩

/-! ## One dispatch -/

def ResponderPhase.inHand : ResponderPhase → List Bytes
  | .dispatching bytes => [bytes]
  | _ => []

def AckCall.framesBy (call : AckCall prims) : InitiatorPhase → List Bytes
  | .sendExchange | .awaitExchange | .sendFrame => []
  | .awaitAck | .returned _ => [call.frame]

/-- Behind the offer, which the responder takes for a control frame, only what the initiator
has sent as frames is on its way to the dispatcher or has been there. -/
structure AtMostFrame (call : AckCall prims) (ack : AckState prims) : Prop where
  fresh : ack.initiator = .sendExchange → ack.toResponder = [] ∧ ack.responder = .awaitFirst
  queue : ∃ offers frames, ack.toResponder = offers ++ frames ∧
    (offers = [] ∨ offers = [call.offer] ∧ ack.responder = .awaitFirst) ∧
    (ack.dispatched ++ (ack.responder.inHand ++ frames)).Sublist (call.framesBy ack.initiator)

section Once

variable {call : AckCall prims} {ack next : AckState prims} {act : AckLabel}

theorem at_most_frame_start : AtMostFrame call call.start where
  fresh _ := ⟨rfl, rfl⟩
  queue := ⟨[], [], rfl, .inl rfl, .slnil⟩

theorem frames_by_le (call : AckCall prims) (phase : InitiatorPhase) :
    (call.framesBy phase).Sublist [call.frame] := by
  cases phase <;> first | exact List.nil_sublist _ | exact List.Sublist.refl _

theorem at_most_frame_step (held : AtMostFrame call ack) (moved : AckMove call ack act next) :
    AtMostFrame call next := by
  obtain ⟨fresh, offers, frames, queued, front, sent⟩ := held
  cases moved with
  | offered phase =>
      obtain ⟨empty, first⟩ := fresh phase
      rw [phase] at sent
      have none := List.eq_nil_of_sublist_nil sent
      simp only [List.append_eq_nil_iff] at none
      refine ⟨fun later => (by cases later), pushFitting [] call.offer, [], ?_, ?_, ?_⟩
      · simp only [empty, List.append_nil]
      · unfold pushFitting
        split_ifs
        · exact .inr ⟨rfl, first⟩
        · exact .inl rfl
      · simp only [none.1, none.2.1, List.append_nil]
        exact List.nil_sublist _
  | exchanged phase waiting =>
      rw [phase] at sent
      exact ⟨fun later => (by cases later), offers, frames, queued, front, sent⟩
  | gaveUpExchange phase =>
      rw [phase] at sent
      exact ⟨fun later => (by cases later), offers, frames, queued, front, sent⟩
  | sentFrame phase =>
      rw [phase] at sent
      have none := List.eq_nil_of_sublist_nil sent
      simp only [List.append_eq_nil_iff] at none
      refine ⟨fun later => (by cases later), offers, [call.frame], ?_, front, ?_⟩
      · simp only [queued, none.2.2, List.append_nil]
      · simp only [none.1, none.2.1, List.nil_append]
        exact List.Sublist.refl _
  | failed =>
      exact ⟨fun later => (by cases later), offers, frames, queued, front,
        sent.trans (frames_by_le call _)⟩
  | receivedAck phase waiting =>
      rw [phase] at sent
      exact ⟨fun later => (by cases later), offers, frames, queued, front, sent⟩
  | @tookControl bytes rest node first waiting control =>
      have started : ack.initiator ≠ .sendExchange := fun early =>
        List.cons_ne_nil _ _ (waiting.symm.trans (fresh early).1)
      refine ⟨fun early => absurd early started, [], rest, rfl, .inl rfl, ?_⟩
      rw [first] at sent
      rcases front with rfl | ⟨rfl, -⟩
      · obtain rfl : frames = bytes :: rest := (waiting.symm.trans queued).symm
        exact ((List.Sublist.refl _).append
          ((List.Sublist.refl _).append (List.sublist_cons_self _ _))).trans sent
      · obtain ⟨-, rfl⟩ := List.cons.inj (waiting.symm.trans queued)
        exact sent
  | @tookFrame bytes rest ready waiting =>
      have started : ack.initiator ≠ .sendExchange := fun early =>
        List.cons_ne_nil _ _ (waiting.symm.trans (fresh early).1)
      refine ⟨fun early => absurd early started, [], rest, rfl, .inl rfl, ?_⟩
      have idle : ack.responder.inHand = [] := by
        rcases ready with ⟨first, -⟩ | later
        · rw [first]; rfl
        · rw [later]; rfl
      rw [idle] at sent
      rcases front with rfl | ⟨rfl, first⟩
      · obtain rfl : frames = bytes :: rest := (waiting.symm.trans queued).symm
        exact sent
      · obtain ⟨rfl, -⟩ := List.cons.inj (waiting.symm.trans queued)
        rcases ready with ⟨-, plain⟩ | later
        · rw [offer_is_control] at plain
          cases plain
        · cases first.symm.trans later
  | replied phase =>
      refine ⟨fun early => (by cases (fresh early).2.symm.trans phase), offers, frames, queued,
        ?_, ?_⟩
      · rcases front with none | ⟨-, first⟩
        · exact .inl none
        · cases first.symm.trans phase
      · rw [phase] at sent
        exact sent
  | @ran now bytes reply node phase =>
      refine ⟨fun early => (by cases (fresh early).2.symm.trans phase), offers, frames, queued,
        ?_, ?_⟩
      · rcases front with none | ⟨-, first⟩
        · exact .inl none
        · cases first.symm.trans phase
      · rw [phase] at sent
        simpa [ResponderPhase.inHand] using sent
  | acked phase =>
      refine ⟨fun early => (by cases (fresh early).2.symm.trans phase), offers, frames, queued,
        ?_, ?_⟩
      · rcases front with none | ⟨-, first⟩
        · exact .inl none
        · cases first.symm.trans phase
      · rw [phase] at sent
        exact sent

end Once

/-- Whatever the network repeats or invents, the responder dispatches nothing but the frame of
the call, and that at most once. If the exchange is not given up while a reply can still come,
an `Ok` means that it has dispatched it. -/
theorem ok_means_dispatched_once {ciphers : Role → TransportCipher}
    (laws : ∀ party, CipherLaws (ciphers party)) (call : AckCall prims) (excused : Prop)
    (labels : List EncryptedLabel) (state : EncryptedCall prims)
    (run : Run (encryptedStep ciphers call) (exposed ciphers excused) call.startEncrypted labels
      state) :
    state.dispatched.Sublist [call.frame] ∧
      (call.Distinct →
        (excused → fitsSession call.offer = false ∨ fitsSession call.answer = false) →
        state.initiator = .returned (.ok ()) → state.dispatched = [call.frame]) := by
  obtain ⟨acts, ack, walked, -, phase, same, rfl⟩ := encrypted_pictured laws run
  have once : state.dispatched.Sublist [call.frame] := by
    obtain ⟨-, offers, frames, -, -, sent⟩ := run_invariant (AtMostFrame call)
      (fun _ _ _ held _ taken => at_most_frame_step held (ack_step_moves taken)) walked
      at_most_frame_start
    exact ((List.sublist_append_left _ _).trans sent).trans (frames_by_le call _)
  refine ⟨once, fun distinct patience succeeded => ?_⟩
  have sound := run_invariant (fun ack => SoundAt call ack ack.initiator)
    (fun _ _ _ held allowed taken =>
      sound_step distinct held (fun given => patience (allowed given)) (ack_step_moves taken))
    walked ⟨rfl, rfl, rfl⟩
  rw [succeeded] at same
  cases same
  have dispatched : call.frame ∈ state.dispatched := sound rfl
  exact once.eq_of_length_le (List.length_pos_of_mem dispatched)

theorem ok_means_dispatched_once_sample :
    ∃ labels state, Run (encryptedStep (fun _ => numberedCipher) sampleCall)
        (exposed (fun _ => numberedCipher) False) sampleCall.startEncrypted labels state ∧
      state.dispatched = [sampleCall.frame] := by
  have finished : ((execute (ackStep sampleCall) sampleCall.start
      [.sendExchange, .responderReceive, .responderReply, .receiveExchange, .sendFrame,
        .responderReceive, .responderDispatch 0, .responderAck, .receiveAck]).map
          fun ack => ack.initiator) = some (.returned (.ok ())) := by
    decide +kernel
  obtain ⟨ack, reached, succeeded⟩ := Option.map_eq_some_iff.mp finished
  have waits : ∀ (ack : AckState clearPrimitives) (act : AckLabel), True →
      act ≠ AckLabel.exchangeTimeout → excusing False ack act :=
    fun _ _ _ other given => other given
  have patient := guarded_run_of_execute (fun _ => True) (fun act => act ≠ .exchangeTimeout)
    waits (fun _ _ _ _ _ _ => trivial) trivial (by decide) reached
  obtain ⟨labels, state, run, realises⟩ := run_simulated (Realises fun _ => numberedCipher)
    (fun _ _ _ _ held allowed taken =>
      realised_step (fun _ => numbered_cipher_laws) held allowed taken) patient
    (realises_start sampleCall)
  obtain ⟨-, -, -, rfl⟩ := realises
  exact ⟨labels, state, run, (ok_means_dispatched_once (fun _ => numbered_cipher_laws) sampleCall
    False labels state run).2 (.inl (by decide)) False.elim succeeded⟩

end Pathweave
