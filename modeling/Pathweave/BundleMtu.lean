import Mathlib.Algebra.Order.Group.Nat
import Pathweave.BundleLayer

/-!
# Frames and the MTU

The overhead of a fragment is estimated from an empty payload at an offset as large as
the total. A real fragment has a shorter head for its offset and a longer one for its
chunk; nothing makes the first outweigh the second. Given the lengths of shortest-form
heads, the sizes at which every frame fits are exactly determined.
-/

namespace Pathweave

open ByteStrings CborHeads

set_option autoImplicit false

/-- The encoding uses shortest-form heads for integers and byte strings, and spends a
fixed number of bytes on everything else. -/
structure ShortestForm (codec : BundleCodec) where
  wholeBase : UInt64 → Nat
  fragmentBase : UInt64 → Nat
  whole : ∀ seq payload, (codec.toCbor (wholeBundle seq payload)).length =
    wholeBase seq + headSize payload.length + payload.length
  fragment : ∀ seq offset totalLen chunk,
    (codec.toCbor (fragmentBundle seq offset totalLen chunk)).length =
      fragmentBase seq + headSize offset + headSize totalLen + headSize chunk.length +
        chunk.length

/-- The heads of the last full chunk and of a shorter final one are within the estimate
for chunks of this size. -/
def ChunkHeadsFit (size total : Nat) : Prop :=
  (size ≤ total → headSize ((total / size - 1) * size) + headSize size ≤ headSize total + 1) ∧
    (total % size ≠ 0 → headSize (total / size * size) + headSize (total % size) + total % size ≤
      headSize total + 1 + size)

instance (size total : Nat) : Decidable (ChunkHeadsFit size total) :=
  inferInstanceAs (Decidable (_ ∧ _))

section Mtu

variable {codec : BundleCodec} (form : ShortestForm codec) (mtu : Nat) (seq : UInt64)

def ShortestForm.chunkSize (total : Nat) : Nat :=
  mtu - (form.fragmentBase seq + headSize total + headSize total + 1)

/-- The payload fits in one bundle, nothing can be sent at all, or the fragments fit. -/
def ShortestForm.FramesFit (total : Nat) : Prop :=
  form.wholeBase seq + headSize total + total ≤ mtu ∨ form.chunkSize mtu seq total = 0 ∨
    ChunkHeadsFit (form.chunkSize mtu seq total) total

end Mtu

/-! ## The frames of a send -/

theorem mem_send_frames {inner : Nat → Option Error} {index : Nat} {frames : List Bytes}
    {frame : Bytes} (sent : frame ∈ (sendFrames inner index frames).frames) : frame ∈ frames := by
  induction frames generalizing index with
  | nil => exact sent
  | cons first rest ih =>
      simp only [sendFrames] at sent
      split at sent
      · exact List.mem_cons.mpr (.inl (List.mem_singleton.mp sent))
      · rcases List.mem_cons.mp sent with head | tail
        · exact List.mem_cons.mpr (.inl head)
        · exact List.mem_cons_of_mem _ (ih tail)

def reliableInner : Nat → Option Error := fun _ => none

theorem send_frames_reliable (index : Nat) (frames : List Bytes) :
    sendFrames reliableInner index frames = { frames := frames, result := .ok () } := by
  induction frames generalizing index with
  | nil => rfl
  | cons first rest ih =>
      simp only [sendFrames, ih]
      rfl

theorem chunk_length (bytes : Bytes) (size offset : Nat) :
    (chunkAt bytes size offset).length = min size (bytes.length - offset) := by
  simp only [chunkAt, List.length_drop, List.length_take]
  omega

theorem mem_fragments_from {codec : BundleCodec} {seq : UInt64} {bytes : Bytes} {size : Nat}
    (positive : 0 < size) (offset : Nat) (frame : Bytes) :
    frame ∈ fragmentsFrom codec seq bytes size positive offset ↔
      ∃ count, offset + count * size < bytes.length ∧
        frame = codec.toCbor (fragmentBundle seq (offset + count * size) bytes.length
          (chunkAt bytes size (offset + count * size))) := by
  fun_induction fragmentsFrom codec seq bytes size positive offset with
  | case1 offset inside ih =>
      have shift : ∀ count, offset + size + count * size = offset + (count + 1) * size := by
        intro count
        ring
      rw [List.mem_cons, ih]
      constructor
      · intro given
        rcases given with first | ⟨count, later, built⟩
        · exact ⟨0, by omega, by simpa using first⟩
        · have stop : min (offset + size) bytes.length = offset + size := by omega
          rw [stop, shift] at later built
          exact ⟨count + 1, later, built⟩
      · intro given
        rcases given with ⟨count, later, built⟩
        cases count with
        | zero => exact .inl (by simpa using built)
        | succ count =>
            rw [← shift] at later built
            have stop : min (offset + size) bytes.length = offset + size := by omega
            rw [stop]
            exact .inr ⟨count, later, built⟩
  | case2 offset outside =>
      constructor
      · intro given
        cases given
      · intro given
        rcases given with ⟨count, later, -⟩
        omega

/-! ## Lengths -/

/-- Checking the last full and the final chunk is enough: heads of smaller offsets are
not longer. -/
theorem chunk_heads_fit_iff {size total : Nat} (positive : 0 < size) :
    (∀ count, count * size < total →
      headSize (count * size) + headSize (min size (total - count * size)) +
        min size (total - count * size) ≤ headSize total + 1 + size) ↔
      ChunkHeadsFit size total := by
  have division : total / size * size + total % size = total := Nat.div_add_mod' total size
  have remainder : total % size < size := Nat.mod_lt total positive
  constructor
  · intro fits
    constructor
    · intro full
      have some : 1 ≤ total / size := (Nat.one_le_div_iff positive).mpr full
      have last : (total / size - 1) * size + size = total / size * size := by
        rw [← Nat.succ_mul, Nat.succ_eq_add_one, Nat.sub_add_cancel some]
      have bound := fits (total / size - 1) (by omega)
      rw [min_eq_left (by omega)] at bound
      omega
    · intro leftover
      have bound := fits (total / size) (by omega)
      have rest : total - total / size * size = total % size := by omega
      rw [rest, min_eq_right (by omega)] at bound
      omega
  · intro fits count inside
    rcases Nat.lt_or_ge total (count * size + size) with final | full
    · have here : total / size = count :=
        Nat.div_eq_of_lt_le (by omega) (by rw [Nat.succ_mul]; exact final)
      rw [here] at division
      have bound := fits.2 (by omega)
      have rest : total - count * size = total % size := by omega
      rw [here] at bound
      rw [rest, min_eq_right (by omega)]
      omega
    · have below : count + 1 ≤ total / size := by
        rw [Nat.le_div_iff_mul_le positive, Nat.succ_mul]
        exact full
      have earlier : headSize (count * size) ≤ headSize ((total / size - 1) * size) :=
        head_size_mono (Nat.mul_le_mul_right size (by omega))
      have bound := fits.1 (by omega)
      rw [min_eq_left (by omega)]
      omega

section Lengths

variable {codec : BundleCodec} (form : ShortestForm codec) {mtu : Nat} {seq : UInt64}

theorem max_payload_eq (mtu : Nat) (seq : UInt64) (bytes : Bytes) :
    maxPayload codec mtu seq bytes = form.chunkSize mtu seq bytes.length := by
  rw [maxPayload, fragmentHeaderOverhead, form.fragment]
  rfl

theorem fragment_fits_iff {bytes : Bytes} {offset : Nat}
    (positive : 0 < form.chunkSize mtu seq bytes.length) :
    (codec.toCbor (fragmentBundle seq offset bytes.length
        (chunkAt bytes (form.chunkSize mtu seq bytes.length) offset))).length ≤ mtu ↔
      headSize offset +
          headSize (min (form.chunkSize mtu seq bytes.length) (bytes.length - offset)) +
          min (form.chunkSize mtu seq bytes.length) (bytes.length - offset) ≤
        headSize bytes.length + 1 + form.chunkSize mtu seq bytes.length := by
  rw [form.fragment, chunk_length]
  unfold ShortestForm.chunkSize at positive ⊢
  omega

theorem fragments_fit_iff {bytes : Bytes} (positive : 0 < form.chunkSize mtu seq bytes.length) :
    (∀ frame ∈ fragmentsFrom codec seq bytes (form.chunkSize mtu seq bytes.length) positive 0,
      frame.length ≤ mtu) ↔
      ChunkHeadsFit (form.chunkSize mtu seq bytes.length) bytes.length := by
  rw [← chunk_heads_fit_iff positive]
  constructor
  · intro fits count inside
    rw [← fragment_fits_iff form positive]
    apply fits
    rw [mem_fragments_from]
    exact ⟨count, by simpa using inside, by simp⟩
  · intro fits frame listed
    rcases (mem_fragments_from positive 0 frame).mp listed with ⟨count, inside, rfl⟩
    rw [Nat.zero_add] at inside ⊢
    exact (fragment_fits_iff form positive).mpr (fits count inside)

end Lengths

/-- The frames a send can pass on: all of them reach a connection that takes them. -/
theorem sent_frames_iff {bound : Nat} (frames : List Bytes) :
    (∀ inner, ∀ frame ∈ (sendFrames inner 0 frames).frames, frame.length ≤ bound) ↔
      ∀ frame ∈ frames, frame.length ≤ bound := by
  constructor
  · intro fits frame listed
    apply fits reliableInner
    rw [send_frames_reliable]
    exact listed
  · intro fits inner frame sent
    exact fits frame (mem_send_frames sent)

/-- Every frame that a send passes to the inner connection is within a positive MTU
exactly if the payload fits whole, cannot be sent, or has chunk heads that fit. -/
theorem bundle_frames_within_mtu_iff {codec : BundleCodec} (form : ShortestForm codec) (mtu : Nat)
    (limited : 0 < mtu) (seq : UInt64) (bytes : Bytes) :
    (∀ inner, ∀ frame ∈ (sendBytes codec mtu seq bytes inner).frames, frame.length ≤ mtu) ↔
      form.FramesFit mtu seq bytes.length := by
  have wholeLength := form.whole seq bytes
  have size := max_payload_eq form mtu seq bytes
  unfold ShortestForm.FramesFit
  by_cases fits : form.wholeBase seq + headSize bytes.length + bytes.length ≤ mtu
  · simp only [send_bytes_whole (.inr (wholeLength ▸ fits)), sent_frames_iff, fits, true_or,
      iff_true]
    intro frame listed
    rw [List.mem_singleton.mp listed, wholeLength]
    exact fits
  have large : ¬ (mtu = 0 ∨ (codec.toCbor (wholeBundle seq bytes)).length ≤ mtu) := by
    omega
  by_cases nothing : form.chunkSize mtu seq bytes.length = 0
  · simp [send_bytes_refused large (size.trans nothing), nothing]
  · have positive : 0 < form.chunkSize mtu seq bytes.length := by omega
    simp only [send_bytes_fragmented large (size.symm ▸ positive), sent_frames_iff, size, fits,
      nothing, false_or]
    exact fragments_fit_iff form positive

/-! ## Two sizes -/

theorem encode_payload_length (payload : Bytes) :
    (encodePayload payload).length = 6 + headSize payload.length + payload.length := by
  simp only [encodePayload, List.length_append, encode_head_length, payload_start_length,
    List.length_singleton]
  omega

def sampleForm : ShortestForm sampleCodec where
  wholeBase seq := 61 + headSize seq.toNat
  fragmentBase seq := 61 + headSize seq.toNat
  whole := by
    intro seq payload
    simp [sampleCodec, encodeBundle, wholeBundle, encode_head_length, encode_payload_length]
    omega
  fragment := by
    intro seq offset totalLen chunk
    simp [sampleCodec, encodeBundle, fragmentBundle, encode_head_length, encode_payload_length]
    omega

def kilobyte : Bytes := List.replicate 1000 0

theorem kilobyte_length : kilobyte.length = 1000 := List.length_replicate

/-- With an MTU of 570 the first chunk takes 501 bytes at offset 0. -/
theorem kilobyte_within_mtu :
    sampleForm.FramesFit 570 0 kilobyte.length ∧
      ∀ inner, ∀ frame ∈ (sendBytes sampleCodec 570 0 kilobyte inner).frames,
        frame.length ≤ 570 := by
  have fit : sampleForm.FramesFit 570 0 kilobyte.length := by
    rw [kilobyte_length]
    exact .inr (.inr (by decide))
  exact ⟨fit, (bundle_frames_within_mtu_iff sampleForm 570 (by decide) 0 kilobyte).mpr fit⟩

def FramesWithinMtu : Prop :=
  ∀ (codec : BundleCodec), ShortestForm codec → ∀ mtu, 0 < mtu →
    ∀ (seq : UInt64) (bytes : Bytes) (inner : Nat → Option Error),
      ∀ frame ∈ (sendBytes codec mtu seq bytes inner).frames, frame.length ≤ mtu

/-- With an MTU of 256 the chunks are 187 bytes long, and the heads of the chunk at
offset 374 take one byte more than was estimated. -/
theorem kilobyte_exceeds_mtu : ¬ FramesWithinMtu := by
  intro within
  have size : maxPayload sampleCodec 256 0 kilobyte = 187 := by
    rw [max_payload_eq sampleForm, kilobyte_length]
    decide
  have large : ¬ ((256 : Nat) = 0 ∨
      (sampleCodec.toCbor (wholeBundle 0 kilobyte)).length ≤ 256) := by
    rw [sampleForm.whole, kilobyte_length]
    decide
  have positive : 0 < maxPayload sampleCodec 256 0 kilobyte := by omega
  have bound := within sampleCodec sampleForm 256 (by decide) 0 kilobyte reliableInner
    (sampleCodec.toCbor (fragmentBundle 0 374 1000 (chunkAt kilobyte 187 374)))
  rw [send_bytes_fragmented large positive, send_frames_reliable, sampleForm.fragment,
    chunk_length, kilobyte_length] at bound
  have sent : sampleCodec.toCbor (fragmentBundle 0 374 1000 (chunkAt kilobyte 187 374)) ∈
      fragmentsFrom sampleCodec 0 kilobyte (maxPayload sampleCodec 256 0 kilobyte) positive 0 := by
    rw [mem_fragments_from]
    refine ⟨2, ?_, ?_⟩
    · rw [size, kilobyte_length]
      decide
    · rw [size, kilobyte_length]
  exact absurd (bound sent) (by decide)

end Pathweave
