import Pathweave.GuardedRuns
import Pathweave.Sessions

/-!
# Sequence of a session's messages

After the handshake each direction of a session has a cipher of its own and a counter at
either end. `Session::send` uses up a counter value as soon as the message is encrypted,
whatever the connection then does with it; `Session::recv` moves on only when a message
decrypts. The network is the attacker's: it may drop, repeat, reorder and invent. The
Noise library is idealised to a cipher that accepts only what was written under it, each
message under its own counter value.
-/

namespace Pathweave

open ByteStrings GuardedRuns

set_option autoImplicit false

/-- One direction of the Noise transport state. Either call gives the counter after it; a
call that fails leaves the counter alone. -/
structure TransportCipher where
  writeMessage (nonce : Nat) (payload : Bytes) : Except String (Bytes × Nat)
  readMessage (nonce : Nat) (message : Bytes) : Except String (Bytes × Nat)

/-- What the Noise library documents. The last counter value is reserved. -/
structure CipherLaws (cipher : TransportCipher) : Prop where
  accepts : ∀ nonce payload, fitsSession payload = true → nonce < 2 ^ 64 - 1 →
    ∃ written, cipher.writeMessage nonce payload = .ok written
  oversized : ∀ nonce payload, fitsSession payload = false →
    cipher.writeMessage nonce payload = .error "input error"
  advances : ∀ nonce payload message next,
    cipher.writeMessage nonce payload = .ok (message, next) → next = nonce + 1
  follows : ∀ nonce payload message next,
    cipher.readMessage nonce message = .ok (payload, next) → next = nonce + 1
  tag : ∀ nonce payload message next,
    cipher.writeMessage nonce payload = .ok (message, next) →
    message.length = payload.length + 16
  undone : ∀ nonce payload message next,
    cipher.writeMessage nonce payload = .ok (message, next) →
    cipher.readMessage nonce message = .ok (payload, next)
  counted : ∀ nonce payload message next,
    cipher.writeMessage nonce payload = .ok (message, next) →
    ∀ other, other ≠ nonce → ∃ detail, cipher.readMessage other message = .error detail

theorem written_next {cipher : TransportCipher} (laws : CipherLaws cipher) {nonce : Nat}
    {payload : Bytes} (fits : fitsSession payload = true) (lasts : nonce < 2 ^ 64 - 1) :
    ∃ message, cipher.writeMessage nonce payload = .ok (message, nonce + 1) := by
  obtain ⟨⟨message, next⟩, written⟩ := laws.accepts nonce payload fits lasts
  obtain rfl := laws.advances nonce payload message next written
  exact ⟨message, written⟩

section Calls

variable (cipher : TransportCipher) (nonce : Nat)

/-- `Session::send` up to the connection: the ciphertext and the counter after it. -/
def encryptMessage (plaintext : Bytes) : Except Error Bytes × Nat :=
  match cipher.writeMessage nonce plaintext with
  | .ok (message, next) => (.ok message, next)
  | .error detail => (.error (.session detail), nonce)

/-- `Session::send` on a connection. -/
def secureSend (conn : Bytes → Except Error Unit) (plaintext : Bytes) :
    Except Error Unit × Nat :=
  match encryptMessage cipher nonce plaintext with
  | (.ok message, next) => (conn message, next)
  | (.error error, next) => (.error error, next)

/-- `Session::recv`, given what `recv_bytes` of the connection returned. -/
def secureRecv (received : Except Error Bytes) : Except Error Bytes × Nat :=
  match received with
  | .error error => (.error error, nonce)
  | .ok message =>
      match cipher.readMessage nonce message with
      | .ok (plaintext, next) => (.ok plaintext, next)
      | .error detail => (.error (.session detail), nonce)

variable {cipher nonce}

/-- As long as the counter lasts, sending on a session is what `sessionSend` says. -/
theorem secure_send_result (laws : CipherLaws cipher) (lasts : nonce < 2 ^ 64 - 1)
    (link : Option Error) (plaintext : Bytes) :
    (secureSend cipher nonce (fun _ => link.elim (.ok ()) .error) plaintext).1 =
      sessionSend link plaintext := by
  unfold secureSend encryptMessage sessionSend
  cases fits : fitsSession plaintext with
  | false => rw [laws.oversized nonce plaintext fits, if_neg (by decide)]
  | true =>
      obtain ⟨message, written⟩ := written_next laws fits lasts
      rw [written, if_pos rfl]
      cases link <;> rfl

theorem secure_recv_written (laws : CipherLaws cipher) {number next : Nat}
    {plaintext message : Bytes}
    (written : cipher.writeMessage number plaintext = .ok (message, next)) :
    (∃ received, (secureRecv cipher nonce (.ok message)).1 = .ok received) ↔ number = nonce := by
  unfold secureRecv
  constructor
  · rintro ⟨received, returned⟩
    by_contra apart
    obtain ⟨detail, refused⟩ :=
      laws.counted number plaintext message next written nonce (Ne.symm apart)
    simp [refused] at returned
  · rintro rfl
    simp [laws.undone number plaintext message next written]

end Calls

/-! ## Two parties and the network between them -/

/-- Both ends of a session. `written` lists the plaintexts with their ciphertexts, `wire`
what the network has seen, `returned` what the calls of `recv` have returned. -/
structure SecureChannel where
  sendNonce : Role → Nat
  recvNonce : Role → Nat
  written : Role → List (Bytes × Bytes)
  wire : List Bytes
  returned : Role → List Bytes

def SecureChannel.start : SecureChannel where
  sendNonce _ := 0
  recvNonce _ := 0
  written _ := []
  wire := []
  returned _ := []

inductive SecureLabel where
  /-- `reached` says whether the ciphertext gets as far as the network. -/
  | send (party : Role) (plaintext : Bytes) (reached : Bool)
  /-- A `recv` that gets this from its connection. -/
  | recv (party : Role) (received : Except Error Bytes)

section Steps

variable (ciphers : Role → TransportCipher)

def SecureChannel.write (state : SecureChannel) (party : Role) (plaintext message : Bytes)
    (nonce : Nat) (reached : Bool) : SecureChannel :=
  { state with
    sendNonce := Function.update state.sendNonce party nonce
    written := Function.update state.written party (state.written party ++ [(plaintext, message)])
    wire := if reached then state.wire ++ [message] else state.wire }

def SecureChannel.accept (state : SecureChannel) (party : Role) (plaintext : Bytes)
    (nonce : Nat) : SecureChannel :=
  { state with
    recvNonce := Function.update state.recvNonce party nonce
    returned := Function.update state.returned party (state.returned party ++ [plaintext]) }

def secureStep (state : SecureChannel) : SecureLabel → Option SecureChannel
  | .send party plaintext reached =>
      match encryptMessage (ciphers party) (state.sendNonce party) plaintext with
      | (.ok message, nonce) => some (state.write party plaintext message nonce reached)
      | (.error _, _) => some state
  | .recv party received =>
      match secureRecv (ciphers party.other) (state.recvNonce party) received with
      | (.ok plaintext, nonce) => some (state.accept party plaintext nonce)
      | (.error _, _) => some state

/-- What decrypts under a party's counter was encrypted by the other one and seen on the
network: nobody else has the key. -/
def unforged (state : SecureChannel) : SecureLabel → Prop
  | .send _ _ _ => True
  | .recv _ (.error _) => True
  | .recv party (.ok message) =>
      ((ciphers party.other).readMessage (state.recvNonce party) message).isOk = true →
        message ∈ state.wire ∧ ∃ entry ∈ state.written party.other, entry.2 = message

instance (state : SecureChannel) (label : SecureLabel) :
    Decidable (unforged ciphers state label) :=
  match label with
  | .send _ _ _ => .isTrue trivial
  | .recv _ (.error _) => .isTrue trivial
  | .recv _ (.ok _) => inferInstanceAs (Decidable (_ → _))

inductive SecureMove (state : SecureChannel) : SecureLabel → SecureChannel → Prop where
  | wrote {party : Role} {plaintext message : Bytes} {nonce : Nat} {reached : Bool}
      (written : (ciphers party).writeMessage (state.sendNonce party) plaintext =
        .ok (message, nonce)) :
      SecureMove state (.send party plaintext reached)
        (state.write party plaintext message nonce reached)
  | accepted {party : Role} {message plaintext : Bytes} {nonce : Nat}
      (read : (ciphers party.other).readMessage (state.recvNonce party) message =
        .ok (plaintext, nonce)) :
      SecureMove state (.recv party (.ok message)) (state.accept party plaintext nonce)
  | refused {label : SecureLabel} : SecureMove state label state

variable {ciphers} {state next : SecureChannel} {label : SecureLabel}

theorem secure_step_moves (taken : secureStep ciphers state label = some next) :
    SecureMove ciphers state label next := by
  cases label with
  | send party plaintext reached =>
      simp only [secureStep, encryptMessage] at taken
      cases written : (ciphers party).writeMessage (state.sendNonce party) plaintext with
      | ok encrypted =>
          obtain ⟨message, nonce⟩ := encrypted
          simp only [written] at taken
          cases taken
          exact .wrote written
      | error detail =>
          simp only [written] at taken
          cases taken
          exact .refused
  | recv party received =>
      cases received with
      | error error =>
          simp only [secureStep, secureRecv] at taken
          cases taken
          exact .refused
      | ok message =>
          simp only [secureStep, secureRecv] at taken
          cases read : (ciphers party.other).readMessage (state.recvNonce party) message with
          | ok decrypted =>
              obtain ⟨plaintext, nonce⟩ := decrypted
              simp only [read] at taken
              cases taken
              exact .accepted read
          | error detail =>
              simp only [read] at taken
              cases taken
              exact .refused

end Steps

/-! ## What has been returned -/

/-- A direction of the session: its messages are numbered in the order in which they were
written, and those returned are the first ones, all seen on the network. -/
structure InSequence (cipher : TransportCipher) (written : List (Bytes × Bytes))
    (wire returned : List Bytes) : Prop where
  numbered : ∀ (place : Nat) (entry : Bytes × Bytes), written[place]? = some entry →
    cipher.writeMessage place entry.1 = .ok (entry.2, place + 1)
  first : returned <+: written.map Prod.fst
  seen : ∀ (place : Nat) (entry : Bytes × Bytes), place < returned.length →
    written[place]? = some entry → entry.2 ∈ wire

structure Sequenced (ciphers : Role → TransportCipher) (state : SecureChannel) : Prop where
  sent : ∀ party, state.sendNonce party = (state.written party).length
  received : ∀ party, state.recvNonce party = (state.returned party).length
  direction : ∀ party, InSequence (ciphers party.other) (state.written party.other) state.wire
    (state.returned party)

section Sequence

variable {cipher : TransportCipher} {written : List (Bytes × Bytes)} {wire returned : List Bytes}
  {plaintext message : Bytes}

theorem in_sequence_write (held : InSequence cipher written wire returned)
    (fresh : cipher.writeMessage written.length plaintext =
      .ok (message, written.length + 1)) :
    InSequence cipher (written ++ [(plaintext, message)]) wire returned where
  numbered := by
    intro place entry listed
    rw [List.getElem?_append] at listed
    split_ifs at listed with inside
    · exact held.numbered place entry listed
    · rw [List.getElem?_singleton] at listed
      split_ifs at listed with last
      cases listed
      have here : place = written.length := by omega
      exact here ▸ fresh
  first := by
    rw [List.map_append]
    exact held.first.trans (List.prefix_append _ _)
  seen := by
    intro place entry early listed
    have short := held.first.length_le
    rw [List.length_map] at short
    rw [List.getElem?_append_left (by omega)] at listed
    exact held.seen place entry early listed

theorem in_sequence_wire {more : List Bytes} (grown : wire ⊆ more)
    (held : InSequence cipher written wire returned) :
    InSequence cipher written more returned where
  numbered := held.numbered
  first := held.first
  seen := fun place entry early listed => grown (held.seen place entry early listed)

theorem accepted_place (laws : CipherLaws cipher) (held : InSequence cipher written wire returned)
    {next : Nat} (read : cipher.readMessage returned.length message = .ok (plaintext, next))
    (genuine : ∃ entry ∈ written, entry.2 = message) :
    written[returned.length]? = some (plaintext, message) := by
  obtain ⟨entry, listed, rfl⟩ := genuine
  obtain ⟨place, found⟩ := List.mem_iff_getElem?.mp listed
  have fresh := held.numbered place entry found
  have turn : place = returned.length := by
    by_contra apart
    obtain ⟨detail, refused⟩ := laws.counted place entry.1 entry.2 _ fresh _ (Ne.symm apart)
    rw [read] at refused
    cases refused
  subst turn
  rw [laws.undone _ entry.1 entry.2 _ fresh] at read
  cases read
  exact found

theorem in_sequence_accept (held : InSequence cipher written wire returned)
    (next : written[returned.length]? = some (plaintext, message)) (known : message ∈ wire) :
    InSequence cipher written wire (returned ++ [plaintext]) where
  numbered := held.numbered
  first := by
    obtain ⟨rest, whole⟩ := held.first
    have here : (written.map Prod.fst)[returned.length]? = some plaintext := by
      rw [List.getElem?_map, next]
      rfl
    rw [← whole, List.getElem?_append_right (Nat.le_refl _), Nat.sub_self] at here
    cases rest with
    | nil => cases here
    | cons head tail =>
        cases here
        exact ⟨tail, by rw [← whole, List.append_assoc, List.singleton_append]⟩
  seen := by
    intro place entry early listed
    rw [List.length_append, List.length_singleton] at early
    rcases Nat.lt_succ_iff_lt_or_eq.mp early with before | here
    · exact held.seen place entry before listed
    · rw [here, next] at listed
      cases listed
      exact known

end Sequence

section Invariant

variable {ciphers : Role → TransportCipher} {state next : SecureChannel} {label : SecureLabel}

theorem sequenced_start : Sequenced ciphers .start where
  sent _ := rfl
  received _ := rfl
  direction party :=
    { numbered := by
        intro place entry listed
        cases listed
      first := List.prefix_refl _
      seen := by
        intro place entry early listed
        cases listed }

theorem sequenced_write {party : Role} {plaintext message : Bytes} {reached : Bool}
    (held : Sequenced ciphers state)
    (written : (ciphers party).writeMessage (state.sendNonce party) plaintext =
      .ok (message, state.sendNonce party + 1)) :
    Sequenced ciphers
      (state.write party plaintext message (state.sendNonce party + 1) reached) where
  sent := by
    intro other
    by_cases same : other = party
    · subst same
      simp [SecureChannel.write, held.sent]
    · simp [SecureChannel.write, same, held.sent]
  received := held.received
  direction := by
    intro other
    have grown : state.wire ⊆
        (state.write party plaintext message (state.sendNonce party + 1) reached).wire := by
      simp only [SecureChannel.write]
      split_ifs
      · exact List.subset_append_left _ _
      · exact List.Subset.refl _
    have kept := in_sequence_wire grown (held.direction other)
    by_cases same : other.other = party
    · subst same
      simp only [SecureChannel.write, Function.update_self]
      rw [held.sent] at written
      exact in_sequence_write kept written
    · simp only [SecureChannel.write, Function.update_of_ne same]
      exact kept

theorem sequenced_accept (laws : ∀ party, CipherLaws (ciphers party)) {party : Role}
    {message plaintext : Bytes} (held : Sequenced ciphers state)
    (allowed : unforged ciphers state (.recv party (.ok message)))
    (read : (ciphers party.other).readMessage (state.recvNonce party) message =
      .ok (plaintext, state.recvNonce party + 1)) :
    Sequenced ciphers (state.accept party plaintext (state.recvNonce party + 1)) where
  sent := held.sent
  received := by
    intro other
    by_cases same : other = party
    · subst same
      simp [SecureChannel.accept, held.received]
    · simp [SecureChannel.accept, same, held.received]
  direction := by
    intro other
    by_cases same : other = party
    · subst same
      obtain ⟨known, genuine⟩ := allowed (by rw [read]; rfl)
      rw [held.received] at read
      simp only [SecureChannel.accept, Function.update_self]
      exact in_sequence_accept (held.direction other)
        (accepted_place (laws _) (held.direction other) read genuine) known
    · simp only [SecureChannel.accept, Function.update_of_ne same]
      exact held.direction other

theorem sequenced_step (laws : ∀ party, CipherLaws (ciphers party)) (held : Sequenced ciphers state)
    (allowed : unforged ciphers state label) (taken : secureStep ciphers state label = some next) :
    Sequenced ciphers next := by
  cases secure_step_moves taken with
  | @wrote party plaintext message nonce reached written =>
      obtain rfl := (laws party).advances _ plaintext message nonce written
      exact sequenced_write held written
  | @accepted party message plaintext nonce read =>
      obtain rfl := (laws party.other).follows _ plaintext message nonce read
      exact sequenced_accept laws held allowed read
  | refused => exact held

end Invariant

def SecureLabel.fitting (party : Role) : SecureLabel → Option Bytes
  | .send sender plaintext _ =>
      if sender = party ∧ fitsSession plaintext = true then some plaintext else none
  | .recv _ _ => none

section Written

variable {ciphers : Role → TransportCipher} {state next : SecureChannel} {label : SecureLabel}

/-- While the counter of a party lasts, a step writes what the party gives to `send` if it
fits, and nothing else. -/
theorem written_step (laws : ∀ party, CipherLaws (ciphers party))
    (held : Sequenced ciphers state) (taken : secureStep ciphers state label = some next)
    (party : Role) :
    ((next.written party).length < 2 ^ 64 - 1 →
      (next.written party).map Prod.fst =
        (state.written party).map Prod.fst ++ (label.fitting party).toList) ∧
    (state.written party).length ≤ (next.written party).length := by
  cases label with
  | recv reader received =>
      simp only [secureStep] at taken
      split at taken
      all_goals
        cases taken
        exact ⟨fun _ => (List.append_nil _).symm, Nat.le_refl _⟩
  | send sender plaintext reached =>
      cases fits : fitsSession plaintext with
      | false =>
          simp only [secureStep, encryptMessage, (laws sender).oversized _ _ fits] at taken
          cases taken
          simp [SecureLabel.fitting, fits]
      | true =>
          by_cases own : sender = party
          · subst own
            cases encrypted : (ciphers sender).writeMessage (state.sendNonce sender) plaintext with
            | ok written =>
                simp only [secureStep, encryptMessage, encrypted] at taken
                cases taken
                simp [SecureLabel.fitting, SecureChannel.write, fits]
            | error detail =>
                simp only [secureStep, encryptMessage, encrypted] at taken
                cases taken
                refine ⟨fun lasts => ?_, Nat.le_refl _⟩
                rw [← held.sent] at lasts
                obtain ⟨message, written⟩ := written_next (laws sender) fits lasts
                cases encrypted.symm.trans written
          · have kept : next.written party = state.written party := by
              simp only [secureStep] at taken
              split at taken
              all_goals
                cases taken
                simp [SecureChannel.write, Function.update_of_ne (Ne.symm own)]
            simp [SecureLabel.fitting, own, kept]

theorem written_run (laws : ∀ party, CipherLaws (ciphers party)) {labels : List SecureLabel}
    (run : Run (secureStep ciphers) (unforged ciphers) .start labels state) (party : Role)
    (lasts : (state.written party).length < 2 ^ 64 - 1) :
    (state.written party).map Prod.fst = labels.filterMap (SecureLabel.fitting party) := by
  induction run with
  | start => rfl
  | @extend labels label state next prior allowed taken ih =>
      have held : Sequenced ciphers state :=
        run_invariant (Sequenced ciphers) (fun _ _ _ => sequenced_step laws) prior
          sequenced_start
      obtain ⟨grows, least⟩ := written_step laws held taken party
      rw [grows lasts, ih (by omega), List.filterMap_append]
      cases given : label.fitting party with
      | none => simp [given]
      | some plaintext => simp [given]

end Written

/-- However the network treats the messages: what `recv` has returned are the first of those
plaintexts whose ciphertext was written, which are the plaintexts given to the other side's
`send` that fit. No call returns a message from behind one that never reached the network.
Of all the ciphertexts written so far, the next call accepts the one in turn and no other. -/
theorem session_returns_in_order {ciphers : Role → TransportCipher}
    (laws : ∀ party, CipherLaws (ciphers party)) {labels : List SecureLabel}
    {state : SecureChannel}
    (run : Run (secureStep ciphers) (unforged ciphers) .start labels state) (party : Role) :
    state.returned party <+: (state.written party.other).map Prod.fst ∧
    ((state.written party.other).length < 2 ^ 64 - 1 →
      (state.written party.other).map Prod.fst =
        labels.filterMap (SecureLabel.fitting party.other)) ∧
    ∀ (place : Nat) (entry : Bytes × Bytes),
      (state.written party.other)[place]? = some entry →
        (entry.2 ∉ state.wire → (state.returned party).length ≤ place) ∧
        ((∃ received, (secureRecv (ciphers party.other) (state.recvNonce party)
            (.ok entry.2)).1 = .ok received) ↔ place = (state.returned party).length) := by
  have held : Sequenced ciphers state :=
    run_invariant (Sequenced ciphers) (fun _ _ _ => sequenced_step laws) run sequenced_start
  have direction := held.direction party
  refine ⟨direction.first, written_run laws run party.other, ?_⟩
  intro place entry listed
  constructor
  · intro lost
    by_contra later
    exact lost (direction.seen place entry (by omega) listed)
  · rw [held.received]
    exact secure_recv_written (laws _) (direction.numbered place entry listed)

/-! ## A cipher that writes its counter in front -/

def numberedCipher : TransportCipher where
  writeMessage nonce payload :=
    if fitsSession payload then
      if nonce < 2 ^ 64 - 1 then
        .ok (encodeBE 8 nonce ++ (encodeBE 8 0 ++ payload), nonce + 1)
      else .error "state error: Exhausted"
    else .error "input error"
  readMessage nonce message :=
    if nonce < 2 ^ 64 - 1 ∧ message.take 8 = encodeBE 8 nonce then
      .ok (message.drop 16, nonce + 1)
    else .error "decrypt error"

theorem numbered_written {nonce next : Nat} {payload message : Bytes}
    (written : numberedCipher.writeMessage nonce payload = .ok (message, next)) :
    nonce < 2 ^ 64 - 1 ∧ next = nonce + 1 ∧
      message = encodeBE 8 nonce ++ (encodeBE 8 0 ++ payload) := by
  simp only [numberedCipher] at written
  split_ifs at written with fits lasts
  cases written
  exact ⟨lasts, rfl, rfl⟩

theorem numbered_cipher_laws : CipherLaws numberedCipher where
  accepts := by
    intro nonce payload fits lasts
    simp only [numberedCipher, fits, if_true, if_pos lasts]
    exact ⟨_, rfl⟩
  oversized := by
    intro nonce payload large
    simp [numberedCipher, large]
  advances := fun _ _ _ _ written => (numbered_written written).2.1
  follows := by
    intro nonce payload message next read
    simp only [numberedCipher] at read
    split_ifs at read
    cases read
    rfl
  tag := by
    intro nonce payload message next written
    obtain ⟨-, -, rfl⟩ := numbered_written written
    simp only [List.length_append, encodeBE_length]
    omega
  undone := by
    intro nonce payload message next written
    obtain ⟨lasts, rfl, rfl⟩ := numbered_written written
    have front : (encodeBE 8 nonce ++ (encodeBE 8 0 ++ payload)).take 8 = encodeBE 8 nonce :=
      List.take_left' (encodeBE_length 8 nonce)
    have back : (encodeBE 8 nonce ++ (encodeBE 8 0 ++ payload)).drop 16 = payload := by
      rw [← List.append_assoc]
      exact List.drop_left' (by simp only [List.length_append, encodeBE_length])
    simp only [numberedCipher, lasts, front, and_self, if_true, back]
  counted := by
    intro nonce payload message next written other apart
    obtain ⟨lasts, -, rfl⟩ := numbered_written written
    refine ⟨"decrypt error", ?_⟩
    simp only [numberedCipher]
    rw [List.take_left' (encodeBE_length 8 nonce), if_neg]
    rintro ⟨otherLasts, same⟩
    have values := congrArg decodeBE same
    rw [decodeBE_encodeBE, decodeBE_encodeBE, Nat.mod_eq_of_lt (by omega),
      Nat.mod_eq_of_lt (by omega)] at values
    exact apart values.symm

/-- Two messages, of which the network delivers the second first and the first twice. -/
def shuffledMessages : List SecureLabel :=
  let first := encodeBE 8 0 ++ (encodeBE 8 0 ++ [1])
  let second := encodeBE 8 1 ++ (encodeBE 8 0 ++ [2])
  [.send .initiator [1] true, .send .initiator [2] true, .recv .responder (.ok second),
    .recv .responder (.ok first), .recv .responder (.ok first), .recv .responder (.ok second)]

theorem session_returns_in_order_shuffled :
    ∃ state, Run (secureStep fun _ => numberedCipher) (unforged fun _ => numberedCipher) .start
        shuffledMessages state ∧
      state.returned .responder = [[1], [2]] ∧
      state.returned .responder <+: (state.written .initiator).map Prod.fst := by
  have reached : (execute (fun state label => if unforged (fun _ => numberedCipher) state label then
      secureStep (fun _ => numberedCipher) state label else none) .start shuffledMessages).map
        (fun state => state.returned .responder) = some [[1], [2]] := by
    decide +kernel
  obtain ⟨state, executed, both⟩ := Option.map_eq_some_iff.mp reached
  have run := run_of_execute_guarded executed
  exact ⟨state, run, both,
    (session_returns_in_order (fun _ => numbered_cipher_laws) run .responder).1⟩

end Pathweave
