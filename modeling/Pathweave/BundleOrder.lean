import Pathweave.BundleReassembly

/-!
# Fragments in any order

The fragments of one send tile its payload, and the receiver keeps those it has in the
order of their offsets, each once. However they arrive, and whatever arrives between
them, the lengths add up exactly when the last one is there.
-/

namespace Pathweave

open ByteStrings ChunkTilings

set_option autoImplicit false

/-! ## What a sequence of frames returns -/

/-- What `recv_bytes` returns on each frame; `none` for a frame that is only kept. -/
def recvTrace (codec : BundleCodec) : PendingMap → List Bytes → List (Option (Except Error Bytes))
  | _, [] => []
  | pending, raw :: rest =>
      let received := receiveRaw codec pending raw
      received.2 :: recvTrace codec received.1 rest

def framesPending (codec : BundleCodec) (pending : PendingMap) (frames : List Bytes) : PendingMap :=
  frames.foldl (fun pending raw => (receiveRaw codec pending raw).1) pending

theorem recv_trace_calls (codec : BundleCodec) (pending : PendingMap) (frames : List Bytes) :
    (recvTrace codec pending frames).reduceOption =
      (recvBytes codec pending frames).result.toList ++
        (recvTrace codec (recvBytes codec pending frames).pending
          (recvBytes codec pending frames).rest).reduceOption := by
  induction frames generalizing pending with
  | nil => rfl
  | cons raw rest ih =>
      rw [recv_bytes_cons, recvTrace]
      cases received : receiveRaw codec pending raw with
      | mk after result =>
          cases result with
          | none => exact ih after
          | some result => rfl

theorem recv_trace_at (codec : BundleCodec) (pending : PendingMap) (frames : List Bytes)
    (index : Nat) :
    (recvTrace codec pending frames)[index]? = frames[index]?.map fun raw =>
      (receiveRaw codec (framesPending codec pending (frames.take index)) raw).2 := by
  induction frames generalizing pending index with
  | nil => rfl
  | cons raw rest ih =>
      cases index with
      | zero => rfl
      | succ index =>
          simp only [recvTrace, List.getElem?_cons_succ, List.take_succ_cons]
          exact ih _ index

/-! ## The chunks of a send -/

def sentChunk (codec : BundleCodec) (seq : UInt64) (bytes : Bytes) (chunk : Nat × Bytes) : Bytes :=
  codec.toCbor (fragmentBundle seq chunk.1 bytes.length chunk.2)

def chunksFrom (bytes : Bytes) (size : Nat) (positive : 0 < size) (offset : Nat) :
    List (Nat × Bytes) :=
  if offset < bytes.length then
    (offset, chunkAt bytes size offset) ::
      chunksFrom bytes size positive (min (offset + size) bytes.length)
  else []
termination_by bytes.length - offset

section Chunks

variable {bytes : Bytes} {size : Nat} {positive : 0 < size}

theorem fragments_from_chunks (codec : BundleCodec) (seq : UInt64) (offset : Nat) :
    fragmentsFrom codec seq bytes size positive offset =
      (chunksFrom bytes size positive offset).map (sentChunk codec seq bytes) := by
  fun_induction chunksFrom bytes size positive offset with
  | case1 offset inside ih => rw [fragmentsFrom, if_pos inside, ih, List.map_cons, sentChunk]
  | case2 offset outside => rw [fragmentsFrom, if_neg outside, List.map_nil]

theorem chunks_from_bounds {offset : Nat} {chunk : Nat × Bytes}
    (listed : chunk ∈ chunksFrom bytes size positive offset) :
    offset ≤ chunk.1 ∧ chunk.1 < bytes.length ∧ chunk.2.length ≤ bytes.length ∧
      0 < chunk.2.length := by
  fun_induction chunksFrom bytes size positive offset with
  | case1 offset inside ih =>
      rcases List.mem_cons.mp listed with rfl | later
      · simp only [chunk_length]
        omega
      · have bounds := ih later
        omega
  | case2 offset outside => cases listed

theorem chunks_from_ascending (offset : Nat) :
    Ascending (chunksFrom bytes size positive offset) := by
  fun_induction chunksFrom bytes size positive offset with
  | case1 offset inside ih =>
      refine List.pairwise_cons.mpr ⟨?_, ih⟩
      intro later listed
      have bounds := chunks_from_bounds listed
      dsimp only
      omega
  | case2 offset outside => exact .nil

theorem chunks_from_joined (offset : Nat) :
    joined (chunksFrom bytes size positive offset) = bytes.drop offset := by
  fun_induction chunksFrom bytes size positive offset with
  | case1 offset inside ih =>
      have split := List.take_append_drop (min (offset + size) bytes.length - offset)
        (bytes.drop offset)
      rw [List.drop_drop, ← List.drop_take, Nat.add_sub_cancel' (by omega)] at split
      rw [joined_cons, ih, chunkAt]
      exact split
  | case2 offset outside =>
      rw [List.drop_eq_nil_of_le (by omega)]
      rfl

end Chunks

/-! ## The chunks that have arrived -/

theorem insert_fragment_first {offset : Nat} {chunk : Bytes} {fragments : List (Nat × Bytes)}
    (before : ∀ entry ∈ fragments, offset < entry.1) :
    insertFragment offset chunk fragments = (offset, chunk) :: fragments := by
  cases fragments with
  | nil => rfl
  | cons first rest => rw [insertFragment, if_pos (before first List.mem_cons_self)]

theorem insert_fragment_filter {chunks : List (Nat × Bytes)} (ascending : Ascending chunks)
    {chunk : Nat × Bytes} (listed : chunk ∈ chunks) (arrived : Nat × Bytes → Bool) :
    insertFragment chunk.1 chunk.2 (chunks.filter arrived) =
      chunks.filter fun other => arrived other || decide (other = chunk) := by
  induction chunks with
  | nil => cases listed
  | cons first rest ih =>
      obtain ⟨below, later⟩ := List.pairwise_cons.mp ascending
      rcases List.mem_cons.mp listed with rfl | among
      · have others : (rest.filter fun other => arrived other || decide (other = chunk)) =
            rest.filter arrived := by
          apply List.filter_congr
          intro other member
          have apart : other ≠ chunk := by
            intro same
            exact absurd (below other member) (by rw [same]; exact Nat.lt_irrefl _)
          simp [apart]
        have behind : ∀ entry ∈ rest.filter arrived, chunk.1 < entry.1 :=
          fun entry member => below entry (List.mem_of_mem_filter member)
        have kept : (arrived chunk || decide (chunk = chunk)) = true := by simp
        rw [List.filter_cons (p := fun other => arrived other || decide (other = chunk)),
          if_pos kept, others]
        by_cases here : arrived chunk = true
        · rw [List.filter_cons_of_pos here, insertFragment, if_neg (Nat.lt_irrefl _), if_pos rfl]
        · rw [List.filter_cons_of_neg here, insert_fragment_first behind]
      · have before := below chunk among
        have apart : first ≠ chunk := by
          intro same
          exact absurd before (by rw [same]; exact Nat.lt_irrefl _)
        by_cases here : arrived first = true
        · rw [List.filter_cons_of_pos here, List.filter_cons_of_pos (by simp [here]),
            insertFragment, if_neg (by omega), if_neg (by omega), ih later among]
        · rw [List.filter_cons_of_neg here, List.filter_cons_of_neg (by simp [here, apart]),
            ih later among]

/-- A frame that is no fragment of the sequence number: another bundle, or none at all. -/
def OtherTraffic (codec : BundleCodec) (seq : UInt64) (raw : Bytes) : Prop :=
  ∀ bundle, codec.tryFrom raw = .ok bundle → bundle.isFragment = true → bundle.seqno ≠ seq

theorem other_traffic_entry {codec : BundleCodec} {seq : UInt64} {raw : Bytes}
    (other : OtherTraffic codec seq raw) (pending : PendingMap) (totalLen : Nat) :
    entryFor (receiveRaw codec pending raw).1 seq totalLen = entryFor pending seq totalLen := by
  unfold receiveRaw
  cases decoded : codec.tryFrom raw with
  | error detail => rfl
  | ok bundle =>
      dsimp only
      rcases receive_bundle_pending pending bundle with kept | ⟨fragment, erased | inserted⟩
      · rw [kept]
      · rw [erased, entryFor, AList.lookup_erase_ne (other bundle decoded fragment).symm, entryFor]
      · rw [inserted, entryFor, AList.lookup_insert_ne (other bundle decoded fragment).symm,
          entryFor]

section Arrivals

variable {codec : BundleCodec} {seq : UInt64} {bytes : Bytes} {size : Nat} {positive : 0 < size}
  {pending : PendingMap} {frames : List Bytes} {chunk : Nat × Bytes}

theorem sent_chunk_decoded (laws : RoundTrips codec) (short : bytes.length < 2 ^ 64)
    (listed : chunk ∈ chunksFrom bytes size positive 0) :
    codec.tryFrom (sentChunk codec seq bytes chunk) =
      .ok (fragmentBundle seq chunk.1 bytes.length chunk.2) := by
  have bounds := chunks_from_bounds listed
  exact laws.fragment seq chunk.1 bytes.length chunk.2 short (by omega) bounds.2.2.1

theorem sent_chunk_injective (laws : RoundTrips codec) (short : bytes.length < 2 ^ 64)
    {other : Nat × Bytes} (listed : chunk ∈ chunksFrom bytes size positive 0)
    (among : other ∈ chunksFrom bytes size positive 0)
    (same : sentChunk codec seq bytes other = sentChunk codec seq bytes chunk) :
    other = chunk := by
  have decoded : codec.tryFrom (sentChunk codec seq bytes other) = _ :=
    sent_chunk_decoded laws short among
  rw [same, sent_chunk_decoded laws short listed, Except.ok.injEq, fragmentBundle,
    fragmentBundle, Bundle.mk.injEq] at decoded
  obtain ⟨-, -, offsets, -, payloads⟩ := decoded
  exact Prod.ext offsets.symm (Option.some.inj payloads.symm)

variable (codec seq bytes size positive frames) in
def arrivedChunks : List (Nat × Bytes) :=
  (chunksFrom bytes size positive 0).filter fun chunk =>
    decide (sentChunk codec seq bytes chunk ∈ frames)

theorem arrived_chunks_own (laws : RoundTrips codec) (short : bytes.length < 2 ^ 64)
    (listed : chunk ∈ chunksFrom bytes size positive 0) :
    insertFragment chunk.1 chunk.2 (arrivedChunks codec seq bytes size positive frames) =
      arrivedChunks codec seq bytes size positive
        (frames ++ [sentChunk codec seq bytes chunk]) := by
  rw [arrivedChunks, insert_fragment_filter (chunks_from_ascending 0) listed, arrivedChunks]
  apply List.filter_congr
  intro other among
  have same : sentChunk codec seq bytes other = sentChunk codec seq bytes chunk ↔
      other = chunk := by
    constructor
    · exact sent_chunk_injective laws short listed among
    · rintro rfl
      rfl
  simp [same]

theorem arrived_chunks_other (laws : RoundTrips codec) (short : bytes.length < 2 ^ 64)
    {raw : Bytes} (other : OtherTraffic codec seq raw) :
    arrivedChunks codec seq bytes size positive (frames ++ [raw]) =
      arrivedChunks codec seq bytes size positive frames := by
  apply List.filter_congr
  intro chunk listed
  have apart : sentChunk codec seq bytes chunk ≠ raw := by
    rintro rfl
    exact other _ (sent_chunk_decoded laws short listed) rfl rfl
  simp [apart]

theorem chunks_from_size : totalSize (chunksFrom bytes size positive 0) = bytes.length := by
  rw [← joined_length, chunks_from_joined, List.drop_zero]

theorem arrived_chunks_missing (listed : chunk ∈ chunksFrom bytes size positive 0)
    (missing : sentChunk codec seq bytes chunk ∉ frames) :
    totalSize (arrivedChunks codec seq bytes size positive frames) < bytes.length := by
  have bounds := chunks_from_bounds listed
  have fewer : totalSize (arrivedChunks codec seq bytes size positive frames) <
      totalSize (chunksFrom bytes size positive 0) :=
    total_size_filter_lt listed bounds.2.2.2 (decide_eq_false missing)
  rw [chunks_from_size] at fewer
  exact fewer

theorem arrived_chunks_all
    (complete : ∀ chunk ∈ chunksFrom bytes size positive 0,
      sentChunk codec seq bytes chunk ∈ frames) :
    arrivedChunks codec seq bytes size positive frames = chunksFrom bytes size positive 0 :=
  List.filter_eq_self.mpr fun chunk listed => decide_eq_true (complete chunk listed)

variable (codec seq bytes size positive pending frames) in
def HoldsArrived : Prop :=
  entryFor pending seq bytes.length =
    { totalDataLength := bytes.length
      fragments := arrivedChunks codec seq bytes size positive frames }

theorem receive_own_chunk (laws : RoundTrips codec) (short : bytes.length < 2 ^ 64)
    (listed : chunk ∈ chunksFrom bytes size positive 0)
    (holds : HoldsArrived codec seq bytes size positive pending frames) :
    let entry : PendingBundle :=
      { totalDataLength := bytes.length
        fragments := arrivedChunks codec seq bytes size positive
          (frames ++ [sentChunk codec seq bytes chunk]) }
    receiveRaw codec pending (sentChunk codec seq bytes chunk) =
      if entry.isComplete = true then (pending.erase seq, some (.ok entry.reassemble))
      else (pending.insert seq entry, none) := by
  intro entry
  have grown : accumulated pending (fragmentBundle seq chunk.1 bytes.length chunk.2) = entry := by
    show { entryFor pending seq bytes.length with
      fragments := insertFragment chunk.1 chunk.2 (entryFor pending seq bytes.length).fragments } =
        entry
    rw [holds, arrived_chunks_own laws short listed]
  rw [receiveRaw, sent_chunk_decoded laws short listed, ← grown]
  exact receive_fragment rfl rfl

theorem receive_own_kept (laws : RoundTrips codec) (short : bytes.length < 2 ^ 64)
    {last : Nat × Bytes} (listed : chunk ∈ chunksFrom bytes size positive 0)
    (lastListed : last ∈ chunksFrom bytes size positive 0)
    (missing : sentChunk codec seq bytes last ∉ frames ++ [sentChunk codec seq bytes chunk])
    (holds : HoldsArrived codec seq bytes size positive pending frames) :
    let received := receiveRaw codec pending (sentChunk codec seq bytes chunk)
    received.2 = none ∧ HoldsArrived codec seq bytes size positive received.1
      (frames ++ [sentChunk codec seq bytes chunk]) := by
  dsimp only
  have fewer := arrived_chunks_missing lastListed missing
  rw [receive_own_chunk laws short listed holds, if_neg]
  · refine ⟨rfl, ?_⟩
    rw [HoldsArrived, entryFor, AList.lookup_insert]
    rfl
  · intro complete
    exact absurd (of_decide_eq_true complete) (Nat.not_le.mpr fewer)

/-- Until the last chunk arrives, the receiver has the chunks that arrived. -/
theorem arrivals_held (laws : RoundTrips codec) (short : bytes.length < 2 ^ 64)
    (fresh : pending.lookup seq = none) {last : Nat × Bytes}
    (lastListed : last ∈ chunksFrom bytes size positive 0)
    (traffic : ∀ raw ∈ frames,
      raw ∈ fragmentsFrom codec seq bytes size positive 0 ∨ OtherTraffic codec seq raw)
    (missing : sentChunk codec seq bytes last ∉ frames) :
    HoldsArrived codec seq bytes size positive (framesPending codec pending frames) frames := by
  induction frames using List.reverseRecOn with
  | nil =>
      have nothing : arrivedChunks codec seq bytes size positive [] = [] := by
        simp [arrivedChunks]
      rw [HoldsArrived, nothing, framesPending, List.foldl_nil, entryFor, fresh]
      rfl
  | append_singleton frames raw ih =>
      have holds := ih (fun other among => traffic other (List.mem_append_left _ among))
        (fun among => missing (List.mem_append_left _ among))
      rw [framesPending, List.foldl_append, List.foldl_cons, List.foldl_nil]
      rcases traffic raw (List.mem_append_right _ List.mem_cons_self) with own | other
      · rw [fragments_from_chunks, List.mem_map] at own
        obtain ⟨chunk, listed, rfl⟩ := own
        exact (receive_own_kept laws short listed lastListed missing holds).2
      · rw [HoldsArrived, other_traffic_entry other, arrived_chunks_other laws short other]
        exact holds

end Arrivals

/-- For every payload that is sent in fragments, and every sequence of frames made of these in
any order and number and of other traffic: no fragment of the send before the last missing one
makes `recv_bytes` return, and that one makes it return the payload. -/
theorem reassembly_order_independent {codec : BundleCodec} (laws : RoundTrips codec) {mtu : Nat}
    {seq : UInt64} {bytes : Bytes} (short : bytes.length < 2 ^ 64)
    (large : ¬ (mtu = 0 ∨ (codec.toCbor (wholeBundle seq bytes)).length ≤ mtu))
    (room : 0 < maxPayload codec mtu seq bytes)
    {pending : PendingMap} (fresh : pending.lookup seq = none)
    {frames : List Bytes} {step : Nat} {last : Bytes}
    (traffic : ∀ raw ∈ frames,
      raw ∈ (sendBytes codec mtu seq bytes reliableInner).frames ∨ OtherTraffic codec seq raw)
    (arrives : frames[step]? = some last)
    (own : last ∈ (sendBytes codec mtu seq bytes reliableInner).frames)
    (missing : last ∉ frames.take step)
    (complete : ∀ raw ∈ (sendBytes codec mtu seq bytes reliableInner).frames,
      raw ∈ frames.take (step + 1)) :
    (∀ index < step, ∀ raw ∈ (sendBytes codec mtu seq bytes reliableInner).frames,
      frames[index]? = some raw → (recvTrace codec pending frames)[index]? = some none) ∧
    (recvTrace codec pending frames)[step]? = some (some (.ok bytes)) := by
  rw [send_bytes_fragmented large room, send_frames_reliable] at traffic own complete ⊢
  have upTo : ∀ {index raw}, frames[index]? = some raw →
      frames.take (index + 1) = frames.take index ++ [raw] := by
    intro index raw found
    rw [List.take_add_one, found, Option.toList_some]
  have known := own
  rw [fragments_from_chunks, List.mem_map] at known
  obtain ⟨chunk, listed, rfl⟩ := known
  have held : ∀ index ≤ step, HoldsArrived codec seq bytes (maxPayload codec mtu seq bytes) room
      (framesPending codec pending (frames.take index)) (frames.take index) := by
    intro index early
    apply arrivals_held laws short fresh listed
    · intro raw among
      exact traffic raw (List.mem_of_mem_take among)
    · intro among
      exact missing ((List.take_prefix_take_left early).subset among)
  constructor
  · intro index early raw among found
    rw [fragments_from_chunks, List.mem_map] at among
    obtain ⟨earlier, earlierListed, rfl⟩ := among
    have absent : sentChunk codec seq bytes chunk ∉
        frames.take index ++ [sentChunk codec seq bytes earlier] := by
      rw [← upTo found]
      intro among
      exact missing ((List.take_prefix_take_left early).subset among)
    rw [recv_trace_at, found, Option.map_some,
      (receive_own_kept laws short earlierListed listed absent (held index early.le)).1]
  · have all : arrivedChunks codec seq bytes (maxPayload codec mtu seq bytes) room
        (frames.take step ++ [sentChunk codec seq bytes chunk]) =
          chunksFrom bytes (maxPayload codec mtu seq bytes) room 0 := by
      rw [← upTo arrives]
      apply arrived_chunks_all
      intro other among
      apply complete
      rw [fragments_from_chunks]
      exact List.mem_map_of_mem among
    have content : joined (chunksFrom bytes (maxPayload codec mtu seq bytes) room 0) = bytes :=
      chunks_from_joined 0
    rw [recv_trace_at, arrives, Option.map_some,
      receive_own_chunk laws short listed (held step le_rfl), all, if_pos]
    · rw [PendingBundle.reassemble]
      exact congrArg (fun payload => some (some (Except.ok payload))) content
    · exact decide_eq_true chunks_from_size.ge

def sixtyBytes : Bytes := List.replicate 60 7

def sixtyFragment (offset size : Nat) : Bytes :=
  sentChunk sampleCodec 0 sixtyBytes (offset, List.replicate size 7)

theorem sixty_fragments :
    (sendBytes sampleCodec 120 0 sixtyBytes reliableInner).frames =
      [sixtyFragment 0 53, sixtyFragment 53 7] := by
  have room : maxPayload sampleCodec 120 0 sixtyBytes = 53 := by decide +kernel
  rw [send_bytes_fragmented (by decide +kernel) (by decide +kernel), send_frames_reliable,
    fragments_from_chunks]
  simp only [room]
  rw [chunksFrom, if_pos (by decide +kernel), chunksFrom, if_pos (by decide +kernel), chunksFrom,
    if_neg (by decide +kernel)]
  rfl

/-- The second fragment twice, with a whole bundle and a fragment of another send in between,
then the first. -/
def sixtyTraffic : List Bytes :=
  [sixtyFragment 53 7, sampleCodec.toCbor (wholeBundle 1 [1]), sixtyFragment 53 7,
    sampleCodec.toCbor (fragmentBundle 2 0 9 [1]), sixtyFragment 0 53]

theorem sixty_traffic_split : ∀ raw ∈ sixtyTraffic,
    raw ∈ (sendBytes sampleCodec 120 0 sixtyBytes reliableInner).frames ∨
      OtherTraffic sampleCodec 0 raw := by
  have others : ∀ bundle : Bundle, sampleCodec.tryFrom (sampleCodec.toCbor bundle) = .ok bundle →
      (bundle.isFragment = true → bundle.seqno ≠ 0) →
      OtherTraffic sampleCodec 0 (sampleCodec.toCbor bundle) := by
    intro bundle decoded apart read same
    rw [decoded, Except.ok.injEq] at same
    exact same ▸ apart
  have whole : OtherTraffic sampleCodec 0 (sampleCodec.toCbor (wholeBundle 1 [1])) :=
    others _ (sample_round_trips.whole 1 [1] (by decide)) (by decide)
  have fragment : OtherTraffic sampleCodec 0 (sampleCodec.toCbor (fragmentBundle 2 0 9 [1])) :=
    others _ (sample_round_trips.fragment 2 0 9 [1] (by decide) (by decide) (by decide)) (by decide)
  rw [sixty_fragments]
  simp [sixtyTraffic, whole, fragment]

theorem sixty_bytes_reassembled :
    (recvTrace sampleCodec ∅ sixtyTraffic)[2]? = some none ∧
      (recvTrace sampleCodec ∅ sixtyTraffic)[4]? = some (some (.ok sixtyBytes)) := by
  have first : sixtyFragment 0 53 ∈
      (sendBytes sampleCodec 120 0 sixtyBytes reliableInner).frames := by
    simp [sixty_fragments]
  have second : sixtyFragment 53 7 ∈
      (sendBytes sampleCodec 120 0 sixtyBytes reliableInner).frames := by
    simp [sixty_fragments]
  have complete : ∀ raw ∈ (sendBytes sampleCodec 120 0 sixtyBytes reliableInner).frames,
      raw ∈ sixtyTraffic.take 5 := by
    simp [sixty_fragments, sixtyTraffic]
  have order := reassembly_order_independent sample_round_trips
    (show sixtyBytes.length < _ by decide) (show ¬ (120 = 0 ∨ _) by decide +kernel)
    (by decide +kernel) (show (∅ : PendingMap).lookup 0 = none from rfl) sixty_traffic_split
    (show sixtyTraffic[4]? = _ from rfl) first (by decide +kernel) complete
  exact ⟨order.1 2 (by decide) _ second rfl, order.2⟩

end Pathweave
