import Pathweave.BundleMtu

/-!
# Payloads survive the bundle layer

Whole and fragmented payloads mix on one connection. Each fragmented send leaves the
receiver with exactly its own chunks, in order of their offsets; the last one completes
the payload and empties the pending map again.
-/

namespace Pathweave

open ByteStrings CborHeads

set_option autoImplicit false

/-- What is relied on of the bundle library, for lengths that fit a machine word. -/
structure RoundTrips (codec : BundleCodec) : Prop where
  whole : ∀ seq payload, payload.length < 2 ^ 64 →
    codec.tryFrom (codec.toCbor (wholeBundle seq payload)) = .ok (wholeBundle seq payload)
  fragment : ∀ seq offset totalLen chunk, totalLen < 2 ^ 64 → offset ≤ totalLen →
    chunk.length ≤ totalLen →
    codec.tryFrom (codec.toCbor (fragmentBundle seq offset totalLen chunk)) =
      .ok (fragmentBundle seq offset totalLen chunk)
  /-- An empty fragment is no shorter than an empty whole bundle. -/
  overhead : ∀ seq totalLen, (codec.toCbor (wholeBundle seq [])).length ≤
    (codec.toCbor (fragmentBundle seq totalLen totalLen [])).length

/-- A sequence of sends over a reliable connection, each with the next number. -/
def sendAll (codec : BundleCodec) (mtu : Nat) : UInt64 → List Bytes → List (Bytes × SendOutcome)
  | _, [] => []
  | seq, bytes :: rest =>
      (bytes, sendBytes codec mtu seq bytes reliableInner) :: sendAll codec mtu (seq + 1) rest

def acceptedPayloads (sent : List (Bytes × SendOutcome)) : List Bytes :=
  (sent.filter fun entry => entry.2.result.isOk).map Prod.fst

def framesOf (sent : List (Bytes × SendOutcome)) : List Bytes :=
  (sent.map fun entry => entry.2.frames).flatten

def recvMany (codec : BundleCodec) :
    Nat → PendingMap → List Bytes → List (Option (Except Error Bytes)) × PendingMap × List Bytes
  | 0, pending, frames => ([], pending, frames)
  | count + 1, pending, frames =>
      let outcome := recvBytes codec pending frames
      let (results, after) := recvMany codec count outcome.pending outcome.rest
      (outcome.result :: results, after)

/-! ## Collecting the chunks -/

theorem insert_fragment_last {offset : Nat} {chunk : Bytes} {fragments : List (Nat × Bytes)}
    (last : ∀ entry ∈ fragments, entry.1 < offset) :
    insertFragment offset chunk fragments = fragments ++ [(offset, chunk)] := by
  induction fragments with
  | nil => rfl
  | cons entry rest ih =>
      have before := last entry (List.mem_cons_self ..)
      rw [insertFragment, if_neg (by omega), if_neg (by omega),
        ih fun later listed => last later (List.mem_cons_of_mem _ listed)]
      rfl

/-- The chunks of the bytes before an offset. -/
structure Collected (bytes : Bytes) (offset : Nat) (pending : PendingBundle) : Prop where
  total : pending.totalDataLength = bytes.length
  before : ∀ entry ∈ pending.fragments, entry.1 < offset
  content : pending.reassemble = bytes.take offset

theorem collected_none (bytes : Bytes) :
    Collected bytes 0 { totalDataLength := bytes.length, fragments := [] } where
  total := rfl
  before := by
    intro entry listed
    cases listed
  content := rfl

theorem received_len_eq (pending : PendingBundle) :
    pending.receivedLen = pending.reassemble.length := by
  rw [PendingBundle.receivedLen, PendingBundle.reassemble, List.length_flatten, List.map_map]
  rfl

structure OnlyFor (seq : UInt64) (pending : PendingMap) : Prop where
  inserted : ∀ entry, pending.insert seq entry = AList.singleton seq entry
  erased : pending.erase seq = ∅

theorem only_for_empty (seq : UInt64) : OnlyFor seq ∅ where
  inserted := by
    intro entry
    rfl
  erased := rfl

theorem only_for_singleton (seq : UInt64) (entry : PendingBundle) :
    OnlyFor seq (AList.singleton seq entry) where
  inserted := by
    intro other
    exact AList.insert_singleton_eq
  erased := by
    apply AList.ext
    exact List.kerase_cons_eq rfl

theorem collected_next {bytes : Bytes} {size offset : Nat} {pending : PendingBundle}
    (positive : 0 < size) (inside : offset < bytes.length)
    (collected : Collected bytes offset pending) :
    Collected bytes (min (offset + size) bytes.length)
      { pending with
        fragments := insertFragment offset (chunkAt bytes size offset) pending.fragments } where
  total := collected.total
  before := by
    rw [insert_fragment_last collected.before]
    intro entry listed
    rcases List.mem_append.mp listed with earlier | new
    · have below := collected.before entry earlier
      omega
    · rw [List.mem_singleton.mp new]
      omega
  content := by
    have front : bytes.take offset =
        (bytes.take (min (offset + size) bytes.length)).take offset := by
      rw [List.take_take, min_eq_left (by omega)]
    have content := collected.content
    unfold PendingBundle.reassemble at content ⊢
    rw [insert_fragment_last collected.before, List.map_append, List.flatten_append, content, front]
    simp only [chunkAt, List.map_cons, List.map_nil, List.flatten_cons, List.flatten_nil,
      List.append_nil]
    exact List.take_append_drop offset _

theorem collected_complete_iff {bytes : Bytes} {offset : Nat} {pending : PendingBundle}
    (collected : Collected bytes offset pending) :
    pending.isComplete = true ↔ bytes.length ≤ offset := by
  rw [PendingBundle.isComplete, received_len_eq, collected.content, collected.total,
    List.length_take, decide_eq_true_eq]
  omega

section Receive

variable {codec : BundleCodec} {pending : PendingMap} {raw : Bytes} {rest : List Bytes}
  {seq : UInt64}

theorem recv_whole {payload : Bytes}
    (decoded : codec.tryFrom raw = .ok (wholeBundle seq payload)) :
    recvBytes codec pending (raw :: rest) =
      { result := some (.ok payload), pending := pending, rest := rest } := by
  rw [recvBytes, decoded]
  rfl

def entryFor (pending : PendingMap) (seq : UInt64) (totalLen : Nat) : PendingBundle :=
  (pending.lookup seq).getD { totalDataLength := totalLen, fragments := [] }

theorem entry_for_singleton (entry : PendingBundle) (totalLen : Nat) :
    entryFor (AList.singleton seq entry) seq totalLen = entry := by
  have found : (AList.singleton seq entry : PendingMap).lookup seq = some entry :=
    AList.lookup_insert (∅ : PendingMap)
  rw [entryFor, found]
  rfl

theorem recv_fragment {offset totalLen : Nat} {chunk : Bytes} {entry : PendingBundle}
    (decoded : codec.tryFrom raw = .ok (fragmentBundle seq offset totalLen chunk))
    (updated : entry = { entryFor pending seq totalLen with
      fragments := insertFragment offset chunk (entryFor pending seq totalLen).fragments }) :
    recvBytes codec pending (raw :: rest) =
      if entry.isComplete = true then
        { result := some (.ok entry.reassemble), pending := pending.erase seq, rest := rest }
      else recvBytes codec (pending.insert seq entry) rest := by
  subst updated
  rw [recvBytes, decoded]
  rfl

/-- From any offset on, the remaining fragments complete the payload. -/
theorem recv_fragments {bytes : Bytes} {size : Nat} (laws : RoundTrips codec)
    (short : bytes.length < 2 ^ 64) (positive : 0 < size) (offset : Nat) (rest : List Bytes)
    (inside : offset < bytes.length) (only : OnlyFor seq pending)
    (collected : Collected bytes offset (entryFor pending seq bytes.length)) :
    recvBytes codec pending (fragmentsFrom codec seq bytes size positive offset ++ rest) =
      { result := some (.ok bytes), pending := ∅, rest := rest } := by
  fun_induction fragmentsFrom codec seq bytes size positive offset generalizing pending with
  | case1 offset here ih =>
      have next := collected_next positive here collected
      have chunkShort : (chunkAt bytes size offset).length ≤ bytes.length := by
        rw [chunk_length]
        omega
      rw [List.cons_append,
        recv_fragment (laws.fragment seq offset bytes.length _ short here.le chunkShort) rfl]
      by_cases done : bytes.length ≤ min (offset + size) bytes.length
      · rw [if_pos ((collected_complete_iff next).mpr done), next.content, only.erased,
          List.take_of_length_le done]
        rw [fragmentsFrom, if_neg (by omega), List.nil_append]
      · rw [if_neg (fun complete => done ((collected_complete_iff next).mp complete)),
          only.inserted]
        apply ih (by omega) (only_for_singleton seq _)
        rw [entry_for_singleton]
        exact next
  | case2 offset outside => exact absurd inside outside

/-- One send over a reliable connection: nothing leaves and the call says so, or the
receiver gets the payload back and nothing else changes. -/
theorem send_received (laws : RoundTrips codec) (mtu : Nat) (seq : UInt64) {bytes : Bytes}
    (short : bytes.length < 2 ^ 64) :
    sendBytes codec mtu seq bytes reliableInner =
        { frames := [], result := .error mtuTooSmall } ∨
      ((sendBytes codec mtu seq bytes reliableInner).result = .ok () ∧
        ∀ rest, recvBytes codec ∅
          ((sendBytes codec mtu seq bytes reliableInner).frames ++ rest) =
            { result := some (.ok bytes), pending := ∅, rest := rest }) := by
  by_cases fits : mtu = 0 ∨ (codec.toCbor (wholeBundle seq bytes)).length ≤ mtu
  · rw [send_bytes_whole fits, send_frames_reliable]
    refine .inr ⟨rfl, ?_⟩
    intro rest
    exact recv_whole (laws.whole seq bytes short)
  by_cases nothing : maxPayload codec mtu seq bytes = 0
  · exact .inl (send_bytes_refused fits nothing)
  have positive : 0 < maxPayload codec mtu seq bytes := Nat.pos_of_ne_zero nothing
  have inside : 0 < bytes.length := by
    -- An empty payload that does not fit leaves no room for fragments either.
    by_contra empty
    have nil : bytes = [] := List.length_eq_zero_iff.mp (by omega)
    subst nil
    have estimate := laws.overhead seq 0
    simp only [maxPayload, fragmentHeaderOverhead, List.length_nil] at positive
    omega
  rw [send_bytes_fragmented fits positive, send_frames_reliable]
  refine .inr ⟨rfl, ?_⟩
  intro rest
  exact recv_fragments laws short positive 0 rest inside (only_for_empty seq) (collected_none bytes)

end Receive

/-! ## Sequences of payloads -/

section Sequences

variable {codec : BundleCodec} {bytes : Bytes} {outcome : SendOutcome}

theorem accepted_payloads_refused {error : Error} (refused : outcome.result = .error error)
    (later : List (Bytes × SendOutcome)) :
    acceptedPayloads ((bytes, outcome) :: later) = acceptedPayloads later := by
  simp [acceptedPayloads, refused, Except.isOk, Except.toBool]

theorem accepted_payloads_ok (accepted : outcome.result = .ok ())
    (later : List (Bytes × SendOutcome)) :
    acceptedPayloads ((bytes, outcome) :: later) = bytes :: acceptedPayloads later := by
  simp [acceptedPayloads, accepted, Except.isOk, Except.toBool]

theorem frames_of_cons (later : List (Bytes × SendOutcome)) :
    framesOf ((bytes, outcome) :: later) = outcome.frames ++ framesOf later := rfl

theorem send_all_ended (laws : RoundTrips codec) (mtu : Nat) (payloads : List Bytes)
    (short : ∀ bytes ∈ payloads, bytes.length < 2 ^ 64) (seq : UInt64) :
    ∀ entry ∈ sendAll codec mtu seq payloads,
      entry.2 = { frames := [], result := .error mtuTooSmall } ∨ entry.2.result = .ok () := by
  induction payloads generalizing seq with
  | nil =>
      intro entry listed
      cases listed
  | cons bytes rest ih =>
      intro entry listed
      rcases List.mem_cons.mp listed with rfl | later
      · exact (send_received laws mtu seq (short bytes (List.mem_cons_self ..))).imp_right And.left
      · exact ih (fun other known => short other (List.mem_cons_of_mem _ known)) (seq + 1) entry later

theorem recv_all_accepted (laws : RoundTrips codec) (mtu : Nat) (payloads : List Bytes)
    (short : ∀ bytes ∈ payloads, bytes.length < 2 ^ 64) (seq : UInt64) :
    recvMany codec (acceptedPayloads (sendAll codec mtu seq payloads)).length ∅
        (framesOf (sendAll codec mtu seq payloads)) =
      ((acceptedPayloads (sendAll codec mtu seq payloads)).map fun bytes => some (.ok bytes),
        ∅, []) := by
  induction payloads generalizing seq with
  | nil => rfl
  | cons bytes rest ih =>
      have received := ih (fun other known => short other (List.mem_cons_of_mem _ known)) (seq + 1)
      simp only [sendAll]
      rcases send_received laws mtu seq (short bytes (List.mem_cons_self ..)) with
        refused | ⟨accepted, delivered⟩
      · rw [refused, accepted_payloads_refused rfl, frames_of_cons, List.nil_append]
        exact received
      · rw [accepted_payloads_ok accepted, frames_of_cons, List.length_cons, recvMany, delivered]
        dsimp only
        rw [received]
        rfl

end Sequences

/-- Every send ends, either with the MTU error and without a frame or with `Ok`; as many
receives as sends were accepted return those payloads in order, use up the frames and
leave the pending map empty. -/
theorem bundle_round_trip {codec : BundleCodec} (laws : RoundTrips codec) (mtu : Nat)
    (payloads : List Bytes) (short : ∀ bytes ∈ payloads, bytes.length < 2 ^ 64) (seq : UInt64) :
    (∀ entry ∈ sendAll codec mtu seq payloads,
      entry.2 = { frames := [], result := .error mtuTooSmall } ∨ entry.2.result = .ok ()) ∧
    recvMany codec (acceptedPayloads (sendAll codec mtu seq payloads)).length ∅
        (framesOf (sendAll codec mtu seq payloads)) =
      ((acceptedPayloads (sendAll codec mtu seq payloads)).map fun bytes => some (.ok bytes),
        ∅, []) := by
  constructor
  · exact send_all_ended laws mtu payloads short seq
  · exact recv_all_accepted laws mtu payloads short seq

/-! ## A mixed sequence -/

theorem decode_encode_payload {payload : Bytes} (short : payload.length < 2 ^ 64) :
    decodePayload (encodePayload payload) = some payload := by
  simp only [decodePayload, encodePayload]
  rw [List.drop_left, decode_encode_head (by decide) short]
  simp

theorem decode_bundle_start (isFragment : Bool) (seq : UInt64) (rest : Bytes) :
    let raw := primaryStart isFragment ++ (endpoints ++ (encodeHead 0 seq.toNat ++
      (lifetime ++ rest)))
    raw.take 5 = primaryStart isFragment ∧
      decodeHead 0 ((raw.drop 5).drop endpoints.length) = some (seq.toNat, lifetime ++ rest) := by
  dsimp only
  constructor
  · rw [List.take_left' (primary_start_length isFragment)]
  · rw [List.drop_left' (primary_start_length isFragment), List.drop_left]
    exact decode_encode_head (by decide) seq.toNat_lt (lifetime ++ rest)

theorem decode_encode_whole {seq : UInt64} {payload : Bytes} (short : payload.length < 2 ^ 64) :
    decodeBundle (encodeBundle (wholeBundle seq payload)) = some (wholeBundle seq payload) := by
  have shape : encodeBundle (wholeBundle seq payload) = primaryStart false ++ (endpoints ++
      (encodeHead 0 seq.toNat ++ (lifetime ++ encodePayload payload))) := rfl
  have start := decode_bundle_start false seq (encodePayload payload)
  dsimp only at start
  rw [shape, decodeBundle, start.2]
  simp only [start.1, Option.bind_eq_bind, Option.bind_some, List.drop_left,
    decode_encode_payload short, UInt64.ofNat_toNat]
  rw [if_neg (by decide)]

theorem decode_encode_fragment {seq : UInt64} {offset totalLen : Nat} {chunk : Bytes}
    (short : totalLen < 2 ^ 64) (inside : offset ≤ totalLen) (chunkShort : chunk.length ≤ totalLen) :
    decodeBundle (encodeBundle (fragmentBundle seq offset totalLen chunk)) =
      some (fragmentBundle seq offset totalLen chunk) := by
  have shape : encodeBundle (fragmentBundle seq offset totalLen chunk) = primaryStart true ++
      (endpoints ++ (encodeHead 0 seq.toNat ++ (lifetime ++ (encodeHead 0 offset ++
        (encodeHead 0 totalLen ++ encodePayload chunk))))) := rfl
  have start := decode_bundle_start true seq
    (encodeHead 0 offset ++ (encodeHead 0 totalLen ++ encodePayload chunk))
  dsimp only at start
  have readOffset := decode_encode_head (show 0 < 8 by decide) (inside.trans_lt short)
    (encodeHead 0 totalLen ++ encodePayload chunk)
  have readTotal := decode_encode_head (show 0 < 8 by decide) short (encodePayload chunk)
  rw [shape, decodeBundle, start.2]
  simp only [start.1, if_true, Option.bind_eq_bind, Option.bind_some, List.drop_left, readOffset,
    readTotal, decode_encode_payload (chunkShort.trans_lt short), UInt64.ofNat_toNat]

theorem sample_round_trips : RoundTrips sampleCodec where
  whole := by
    intro seq payload short
    simp only [sampleCodec, decode_encode_whole short]
  fragment := by
    intro seq offset totalLen chunk short inside chunkShort
    simp only [sampleCodec, decode_encode_fragment short inside chunkShort]
  overhead := by
    intro seq totalLen
    rw [sampleForm.whole, sampleForm.fragment]
    simp only [sampleForm, List.length_nil]
    omega

theorem send_accepted {codec : BundleCodec} {mtu : Nat} {seq : UInt64} {bytes : Bytes}
    (room : (codec.toCbor (wholeBundle seq bytes)).length ≤ mtu ∨
      0 < maxPayload codec mtu seq bytes) :
    (sendBytes codec mtu seq bytes reliableInner).result = .ok () := by
  by_cases fits : mtu = 0 ∨ (codec.toCbor (wholeBundle seq bytes)).length ≤ mtu
  · rw [send_bytes_whole fits, send_frames_reliable]
  · have positive : 0 < maxPayload codec mtu seq bytes := by omega
    rw [send_bytes_fragmented fits positive, send_frames_reliable]

def mixedPayloads : List Bytes := [[1, 2, 3], [], List.replicate 90 7]

theorem bundle_round_trip_mixed :
    recvMany sampleCodec 3 ∅ (framesOf (sendAll sampleCodec 100 0 mixedPayloads)) =
      (mixedPayloads.map fun bytes => some (.ok bytes), ∅, []) := by
  have first : (sendBytes sampleCodec 100 0 [1, 2, 3] reliableInner).result = .ok () := by
    apply send_accepted
    rw [sampleForm.whole]
    exact .inl (by decide)
  have empty : (sendBytes sampleCodec 100 1 [] reliableInner).result = .ok () := by
    apply send_accepted
    rw [sampleForm.whole]
    exact .inl (by decide)
  have long : (sendBytes sampleCodec 100 2 (List.replicate 90 7) reliableInner).result =
      .ok () := by
    apply send_accepted
    rw [max_payload_eq sampleForm, List.length_replicate]
    exact .inr (by decide)
  have accepted : acceptedPayloads (sendAll sampleCodec 100 0 mixedPayloads) = mixedPayloads := by
    simp only [mixedPayloads, sendAll, acceptedPayloads, UInt64.reduceAdd, List.filter_cons,
      List.filter_nil, first, empty, long]
    rfl
  have received := (bundle_round_trip sample_round_trips 100 mixedPayloads (by decide) 0).2
  rw [accepted] at received
  exact received

end Pathweave
