import Pathweave.BundleReassembly
import Pathweave.SecureChannel
import Pathweave.StreamConnections
import Pathweave.Transducers

/-!
# A session over the bundle layer and a byte stream

`Session::send` encrypts, the bundle layer cuts the ciphertext to the MTU, and a QUIC or
Wi-Fi Direct connection puts a length before every frame. The other side undoes the three
in turn, each layer answering its inputs one by one. Together they are one ordered channel
of plaintexts. It survives a message that is too long for Noise, which is refused before
anything is counted, but not one that the bundle layer refuses: that message has used up
its counter value, and nothing sent after it decrypts.
-/

namespace Pathweave

open ByteStrings GuardedRuns Transducers

set_option autoImplicit false

/-! ## Sending -/

structure StackSent where
  plaintext : Bytes
  message : Option Bytes
  frames : List Bytes
  result : Except Error Unit

structure StackSender where
  nonce : Nat
  seq : UInt64

section Send

variable (cipher : TransportCipher) (codec : BundleCodec) (mtu : Nat)

/-- `Session::send` over a bundle layer whose inner connection does not fail. -/
def stackSend (sender : StackSender) (plaintext : Bytes) : StackSent × StackSender :=
  match encryptMessage cipher sender.nonce plaintext with
  | (.error error, nonce) =>
      ({ plaintext := plaintext, message := none, frames := [], result := .error error },
        { sender with nonce := nonce })
  | (.ok message, nonce) =>
      let outcome := sendBytes codec mtu sender.seq message reliableInner
      ({ plaintext := plaintext
         message := some message
         frames := outcome.frames
         result := outcome.result },
        { nonce := nonce, seq := sender.seq + 1 })

def stackSendAll : StackSender → List Bytes → List StackSent
  | _, [] => []
  | sender, plaintext :: rest =>
      (stackSend cipher codec mtu sender plaintext).1 ::
        stackSendAll (stackSend cipher codec mtu sender plaintext).2 rest

def stackFrames (sent : List StackSent) : List Bytes := sent.flatMap StackSent.frames

end Send

/-! ## Receiving -/

section Receive

variable (cipher : TransportCipher) (codec : BundleCodec)

def sessionReceiver : Machine Nat (Except Error Bytes) (Except Error Bytes) :=
  fun nonce received =>
    ((secureRecv cipher nonce received).2, some (secureRecv cipher nonce received).1)

/-- From the frames of the connection to what the calls of `Session::recv` return. -/
def stackReceiver : Machine (PendingMap × Nat) Bytes (Except Error Bytes) :=
  cascade (receiveRaw codec) (sessionReceiver cipher)

/-- The answers of the bundle layer are what calls of `recv_bytes` in a row return. -/
theorem answers_recv_bytes (pending : PendingMap) (frames : List Bytes) :
    answers (receiveRaw codec) pending frames =
      (recvBytes codec pending frames).result.toList ++
        answers (receiveRaw codec) (recvBytes codec pending frames).pending
          (recvBytes codec pending frames).rest := by
  induction frames generalizing pending with
  | nil => rfl
  | cons raw rest ih =>
      rw [recv_bytes_cons, answers]
      cases received : receiveRaw codec pending raw with
      | mk after result =>
          cases result with
          | none => exact ih after
          | some result => rfl

end Receive

/-! ## What arrives -/

def StackSent.accepted (sent : StackSent) : Bool := sent.result.isOk

def carried (sent : List StackSent) : List Bytes :=
  sent.flatMap fun one => if one.accepted then one.message.toList else []

/-- What the receiver makes of the accepted sends: the plaintexts up to the first ciphertext
that was refused below the session, and an error for each one after it. -/
def arrivals : List StackSent → List (Option Bytes)
  | [] => []
  | sent :: rest =>
      if sent.message.isNone then arrivals rest
      else if sent.accepted then some sent.plaintext :: arrivals rest
      else (rest.filter StackSent.accepted).map fun _ => none

section Arrivals

variable {cipher : TransportCipher} {codec : BundleCodec}

/-- A send is refused by the Noise library and counts nowhere, it is refused by the bundle
layer after it was counted, or its frames bring the ciphertext to the other side. -/
inductive StackEffect (cipher : TransportCipher) (codec : BundleCodec) (sender : StackSender)
    (plaintext : Bytes) (sent : StackSent) (next : StackSender) : Prop where
  | uncounted (silent : sent.message = none) (refused : sent.accepted = false)
      (nothing : sent.frames = []) (same : next = sender)
  | counted (message : Bytes) (encrypted : sent.message = some message)
      (refused : sent.accepted = false) (nothing : sent.frames = [])
      (used : next.nonce = sender.nonce + 1)
  | carried (message : Bytes) (encrypted : sent.message = some message)
      (written : cipher.writeMessage sender.nonce plaintext = .ok (message, sender.nonce + 1))
      (accepted : sent.accepted = true)
      (arrives : ∀ rest, recvBytes codec ∅ (sent.frames ++ rest) =
        { result := some (.ok message), pending := ∅, rest := rest })
      (used : next.nonce = sender.nonce + 1)

theorem ciphertext_short (laws : CipherLaws cipher) {nonce next : Nat}
    {plaintext message : Bytes}
    (written : cipher.writeMessage nonce plaintext = .ok (message, next)) :
    message.length < 2 ^ 64 := by
  cases fits : fitsSession plaintext with
  | false =>
      rw [laws.oversized nonce plaintext fits] at written
      cases written
  | true =>
      have limit : plaintext.length + 16 ≤ 65535 := of_decide_eq_true fits
      rw [laws.tag nonce plaintext message next written]
      omega

theorem stack_send_effect (laws : CipherLaws cipher) (codecLaws : RoundTrips codec) (mtu : Nat)
    (sender : StackSender) (plaintext : Bytes) :
    StackEffect cipher codec sender plaintext (stackSend cipher codec mtu sender plaintext).1
      (stackSend cipher codec mtu sender plaintext).2 := by
  unfold stackSend encryptMessage
  cases written : cipher.writeMessage sender.nonce plaintext with
  | error detail => exact .uncounted rfl rfl rfl rfl
  | ok encrypted =>
      obtain ⟨message, next⟩ := encrypted
      obtain rfl := laws.advances sender.nonce plaintext message next written
      dsimp only
      rcases send_received codecLaws mtu sender.seq (ciphertext_short laws written) with
        refused | ⟨accepted, arrives⟩
      · rw [refused]
        exact .counted message rfl rfl rfl rfl
      · exact .carried message rfl written (by rw [StackSent.accepted, accepted]; rfl) arrives rfl

theorem stack_send_plaintext (mtu : Nat) (sender : StackSender) (plaintext : Bytes) :
    (stackSend cipher codec mtu sender plaintext).1.plaintext = plaintext := by
  unfold stackSend
  split <;> rfl

theorem carried_cons_accepted {sent : StackSent} {message : Bytes} (rest : List StackSent)
    (accepted : sent.accepted = true) (encrypted : sent.message = some message) :
    carried (sent :: rest) = message :: carried rest := by
  simp [carried, accepted, encrypted]

theorem carried_cons_refused {sent : StackSent} (rest : List StackSent)
    (refused : sent.accepted = false) : carried (sent :: rest) = carried rest := by
  simp [carried, refused]

theorem stack_frames_cons (sent : StackSent) (rest : List StackSent) :
    stackFrames (sent :: rest) = sent.frames ++ stackFrames rest :=
  List.flatMap_cons

variable (laws : CipherLaws cipher) (codecLaws : RoundTrips codec) (mtu : Nat)
  (plaintexts : List Bytes) (sender : StackSender)

include laws codecLaws

theorem bundle_answers :
    answers (receiveRaw codec) ∅ (stackFrames (stackSendAll cipher codec mtu sender plaintexts)) =
      (carried (stackSendAll cipher codec mtu sender plaintexts)).map .ok := by
  induction plaintexts generalizing sender with
  | nil => rfl
  | cons plaintext rest ih =>
      rw [stackSendAll, stack_frames_cons]
      cases stack_send_effect laws codecLaws mtu sender plaintext with
      | uncounted _ refused nothing _ | counted _ _ refused nothing _ =>
          rw [nothing, carried_cons_refused _ refused, List.nil_append]
          exact ih _
      | carried message encrypted _ accepted arrives _ =>
          rw [carried_cons_accepted _ accepted encrypted, answers_recv_bytes, arrives, ih]
          rfl

theorem session_answers_behind {nonce : Nat} (behind : nonce < sender.nonce) :
    (answers (sessionReceiver cipher) nonce
        ((carried (stackSendAll cipher codec mtu sender plaintexts)).map .ok)).map
          Except.toOption =
      ((stackSendAll cipher codec mtu sender plaintexts).filter StackSent.accepted).map
        fun _ => none := by
  induction plaintexts generalizing sender with
  | nil => rfl
  | cons plaintext rest ih =>
      rw [stackSendAll]
      cases stack_send_effect laws codecLaws mtu sender plaintext with
      | uncounted _ refused _ same =>
          rw [carried_cons_refused _ refused, List.filter_cons_of_neg (by simp [refused])]
          exact ih _ (by rwa [same])
      | counted _ _ refused _ used =>
          rw [carried_cons_refused _ refused, List.filter_cons_of_neg (by simp [refused])]
          exact ih _ (by omega)
      | carried message encrypted written accepted _ used =>
          obtain ⟨detail, rejected⟩ :=
            laws.counted sender.nonce plaintext message _ written nonce (Nat.ne_of_lt behind)
          rw [carried_cons_accepted _ accepted encrypted, List.filter_cons_of_pos accepted]
          simp only [List.map_cons, answers, sessionReceiver, secureRecv, rejected,
            Option.toList_some, List.singleton_append, Except.toOption]
          exact congrArg _ (ih _ (by omega))

/-- While the counters agree the plaintexts come out, until one is refused below. -/
theorem session_answers_in_step :
    (answers (sessionReceiver cipher) sender.nonce
        ((carried (stackSendAll cipher codec mtu sender plaintexts)).map .ok)).map
          Except.toOption =
      arrivals (stackSendAll cipher codec mtu sender plaintexts) := by
  induction plaintexts generalizing sender with
  | nil => rfl
  | cons plaintext rest ih =>
      rw [stackSendAll, arrivals]
      cases stack_send_effect laws codecLaws mtu sender plaintext with
      | uncounted silent refused _ same =>
          rw [carried_cons_refused _ refused, if_pos (by rw [silent]; rfl), ← ih, same]
      | counted message encrypted refused _ used =>
          rw [carried_cons_refused _ refused, encrypted, if_neg (by simp),
            if_neg (by simp [refused])]
          exact session_answers_behind laws codecLaws mtu rest _ (by omega)
      | carried message encrypted written accepted _ used =>
          rw [carried_cons_accepted _ accepted encrypted, encrypted, if_neg (by simp),
            if_pos accepted, stack_send_plaintext, ← ih, used]
          simp only [List.map_cons, answers, sessionReceiver, secureRecv,
            laws.undone sender.nonce plaintext message _ written, Option.toList_some,
            List.singleton_append, Except.toOption]

end Arrivals

/-- For every sequence of plaintexts and every way the byte stream is delivered and read: what
the calls of `Session::recv` have returned so far is the start of what the sends call for,
and all of it once the stream is read. Every accepted plaintext is among them, in order and
unchanged, unless an earlier one was refused by the bundle layer. -/
theorem session_stack_ordered {cipher : TransportCipher} {codec : BundleCodec}
    (laws : CipherLaws cipher) (codecLaws : RoundTrips codec) (mtu : Nat) (seq : UInt64)
    (plaintexts : List Bytes) {sent : List StackSent}
    (called : sent = stackSendAll cipher codec mtu { nonce := 0, seq := seq } plaintexts)
    (short : ∀ frame ∈ stackFrames sent, frame.length < 2 ^ 32) {labels : List StreamLabel}
    {state : StreamState}
    (run : Run streamStep dropsNothing (.start ((stackFrames sent).flatMap lengthPrefixed)) labels
      state) :
    (answers (stackReceiver cipher codec) (∅, 0) state.returned).map Except.toOption <+:
        arrivals sent ∧
      (state.unreturned = [] →
        (answers (stackReceiver cipher codec) (∅, 0) state.returned).map Except.toOption =
          arrivals sent) := by
  have kept := run_invariant
    (fun state => InStep (stackFrames sent) state ∧
      (state.finished = true → state.incoming = []))
    (fun _ _ _ held allowed taken => in_step_step short held allowed taken) run
    ⟨⟨_, rfl, rfl⟩, fun impossible => absurd impossible Bool.false_ne_true⟩
  have whole : (answers (stackReceiver cipher codec) (∅, 0) (stackFrames sent)).map
      Except.toOption = arrivals sent := by
    rw [stackReceiver, answers_cascade, called, bundle_answers laws codecLaws]
    exact session_answers_in_step laws codecLaws mtu plaintexts { nonce := 0, seq := seq }
  constructor
  · obtain ⟨rest, all, -⟩ := kept.1
    rw [← whole, all]
    exact (answers_of_initial _ _ (List.prefix_append _ _)).map _
  · intro drained
    rw [in_step_drained kept.1 drained]
    exact whole

def samplePlaintexts : List Bytes := [[1], List.replicate 30 9, [2]]

def sampleSent (mtu : Nat) : List StackSent :=
  stackSendAll numberedCipher sampleCodec mtu { nonce := 0, seq := 3 } samplePlaintexts

/-- Each frame arrives in one piece, and its length is read first. -/
def readFrames (frames : List Bytes) : List StreamLabel :=
  frames.flatMap fun frame =>
    [.deliver (frame.length + 4), .call, .read 4, .read frame.length]

/-- With an MTU of 90 the second plaintext takes two frames and all three come out. With 67
the others take nine each, the second is refused, and the third is no longer understood. -/
theorem session_stack_ordered_fragments :
    (∃ state, Run streamStep dropsNothing
        (.start ((stackFrames (sampleSent 90)).flatMap lengthPrefixed))
        (readFrames (stackFrames (sampleSent 90))) state ∧
      (sampleSent 90).map (fun sent => sent.frames.length) = [1, 2, 1] ∧
      (answers (stackReceiver numberedCipher sampleCodec) (∅, 0) state.returned).map
        Except.toOption = [some [1], some (List.replicate 30 9), some [2]]) ∧
    ∃ state, Run streamStep dropsNothing
        (.start ((stackFrames (sampleSent 67)).flatMap lengthPrefixed))
        (readFrames (stackFrames (sampleSent 67))) state ∧
      (sampleSent 67).map (fun sent => sent.frames.length) = [9, 0, 9] ∧
      (answers (stackReceiver numberedCipher sampleCodec) (∅, 0) state.returned).map
        Except.toOption = [some [1], none] := by
  have received : ∀ mtu, (∀ frame ∈ stackFrames (sampleSent mtu), frame.length < 2 ^ 32) →
      (execute (fun state label => if dropsNothing state label then streamStep state label
        else none) (.start ((stackFrames (sampleSent mtu)).flatMap lengthPrefixed))
        (readFrames (stackFrames (sampleSent mtu)))).map StreamState.unreturned = some [] →
      ∃ state, Run streamStep dropsNothing
          (.start ((stackFrames (sampleSent mtu)).flatMap lengthPrefixed))
          (readFrames (stackFrames (sampleSent mtu))) state ∧
        (answers (stackReceiver numberedCipher sampleCodec) (∅, 0) state.returned).map
          Except.toOption = arrivals (sampleSent mtu) := by
    intro mtu short reached
    obtain ⟨state, executed, drained⟩ := Option.map_eq_some_iff.mp reached
    have run := run_of_execute_guarded executed
    exact ⟨state, run, (session_stack_ordered numbered_cipher_laws sample_round_trips mtu 3
      samplePlaintexts rfl short run).2 drained⟩
  obtain ⟨whole, wholeRun, all⟩ := received 90 (by decide +kernel) (by decide +kernel)
  obtain ⟨cut, cutRun, first⟩ := received 67 (by decide +kernel) (by decide +kernel)
  refine ⟨⟨whole, wholeRun, by decide +kernel, all.trans (by decide +kernel)⟩,
    cut, cutRun, by decide +kernel, first.trans (by decide +kernel)⟩

end Pathweave
