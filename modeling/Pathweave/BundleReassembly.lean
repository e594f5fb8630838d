import Pathweave.BundleRoundTrip
import Pathweave.ChunkTilings

/-!
# Reassembly from arbitrary fragments

The receiver trusts the offsets and the total that the fragments of a sequence number
carry, and takes a message for complete when the lengths of its fragments add up to that
total. The sum says nothing about where the fragments lie: gaps are closed up and
overlaps are repeated. What is returned covers the message exactly if the fragments tile
it; only the size of the buffer is safe from any sender.
-/

namespace Pathweave

open ByteStrings ChunkTilings

set_option autoImplicit false

/-! ## One bundle at a time -/

def accumulated (pending : PendingMap) (bundle : Bundle) : PendingBundle :=
  let entry := entryFor pending bundle.seqno bundle.totalDataLength
  { entry with
    fragments := insertFragment bundle.fragmentationOffset (bundle.payload.getD [])
      entry.fragments }

def receiveBundle (pending : PendingMap) (bundle : Bundle) :
    PendingMap × Option (Except Error Bytes) :=
  if bundle.isFragment then
    match bundle.payload with
    | none => (pending, some (.error (.bundle "fragment missing payload")))
    | some _ =>
        if (accumulated pending bundle).isComplete then
          (pending.erase bundle.seqno, some (.ok (accumulated pending bundle).reassemble))
        else (pending.insert bundle.seqno (accumulated pending bundle), none)
  else
    match bundle.payload with
    | none => (pending, some (.error (.bundle "bundle missing payload")))
    | some payload => (pending, some (.ok payload))

def receiveRaw (codec : BundleCodec) (pending : PendingMap) (raw : Bytes) :
    PendingMap × Option (Except Error Bytes) :=
  match codec.tryFrom raw with
  | .error detail => (pending, some (.error (.bundle detail)))
  | .ok bundle => receiveBundle pending bundle

theorem receive_fragment {pending : PendingMap} {bundle : Bundle} {chunk : Bytes}
    (fragment : bundle.isFragment = true) (carries : bundle.payload = some chunk) :
    receiveBundle pending bundle =
      if (accumulated pending bundle).isComplete = true then
        (pending.erase bundle.seqno, some (.ok (accumulated pending bundle).reassemble))
      else (pending.insert bundle.seqno (accumulated pending bundle), none) := by
  rw [receiveBundle, if_pos fragment, carries]

theorem receive_bundle_pending (pending : PendingMap) (bundle : Bundle) :
    (receiveBundle pending bundle).1 = pending ∨
      bundle.isFragment = true ∧
        ((receiveBundle pending bundle).1 = pending.erase bundle.seqno ∨
          (receiveBundle pending bundle).1 =
            pending.insert bundle.seqno (accumulated pending bundle)) := by
  cases carries : bundle.payload with
  | none =>
      left
      simp only [receiveBundle, carries]
      split_ifs <;> rfl
  | some chunk =>
      by_cases fragment : bundle.isFragment = true
      · right
        rw [receive_fragment fragment carries]
        split_ifs
        · exact ⟨fragment, .inl rfl⟩
        · exact ⟨fragment, .inr rfl⟩
      · left
        simp only [receiveBundle, carries, if_neg fragment]

/-- The loop of `recv_bytes` takes one frame after another until one makes it return. -/
theorem recv_bytes_cons (codec : BundleCodec) (pending : PendingMap) (raw : Bytes)
    (rest : List Bytes) :
    recvBytes codec pending (raw :: rest) =
      match receiveRaw codec pending raw with
      | (after, some result) => { result := some result, pending := after, rest := rest }
      | (after, none) => recvBytes codec after rest := by
  cases decoded : codec.tryFrom raw with
  | error detail => simp only [recvBytes, receiveRaw, decoded]
  | ok bundle =>
      obtain ⟨isFragment, seqno, offset, totalLen, payload⟩ := bundle
      cases isFragment with
      | false => cases payload <;> simp [recvBytes, receiveRaw, decoded, receiveBundle]
      | true =>
          cases payload with
          | none => simp [recvBytes, receiveRaw, decoded, receiveBundle]
          | some chunk =>
              rw [recv_fragment decoded rfl]
              simp only [receiveRaw, decoded, receiveBundle, if_true]
              by_cases complete : (accumulated pending
                  { isFragment := true, seqno := seqno, fragmentationOffset := offset,
                    totalDataLength := totalLen, payload := some chunk }).isComplete = true
              · rw [if_pos complete]
                exact if_pos complete
              · rw [if_neg complete]
                exact if_neg complete

/-! ## Sequences of bundles -/

def pendingAfter (bundles : List Bundle) : PendingMap :=
  bundles.foldl (fun pending bundle => (receiveBundle pending bundle).1) ∅

def receivedBytes (bundles : List Bundle) : Nat :=
  (bundles.map fun bundle => (bundle.payload.getD []).length).sum

/-- The returned payload is the message that the accumulated fragments describe. -/
structure CoversMessage (entry : PendingBundle) (payload : Bytes) : Prop where
  covered : Covered 0 entry.totalDataLength entry.fragments
  size : payload.length = entry.totalDataLength
  sourced : ∀ (position : Nat) (byte : UInt8), payload[position]? = some byte →
    ∃ fragment ∈ entry.fragments, Contains fragment position ∧
      fragment.2[position - fragment.1]? = some byte

theorem insert_fragment_mem {offset : Nat} {chunk : Bytes} {fragments : List (Nat × Bytes)}
    {entry : Nat × Bytes} (listed : entry ∈ insertFragment offset chunk fragments) :
    entry = (offset, chunk) ∨ entry ∈ fragments := by
  induction fragments with
  | nil => exact .inl (List.mem_singleton.mp listed)
  | cons first rest ih =>
      simp only [insertFragment] at listed
      split_ifs at listed
      · exact List.mem_cons.mp listed
      · rcases List.mem_cons.mp listed with new | later
        · exact .inl new
        · exact .inr (List.mem_cons_of_mem _ later)
      · rcases List.mem_cons.mp listed with same | later
        · exact .inr (same ▸ List.mem_cons_self)
        · exact (ih later).imp_right (List.mem_cons_of_mem _)

theorem insert_fragment_ascending {fragments : List (Nat × Bytes)} (offset : Nat) (chunk : Bytes)
    (ascending : Ascending fragments) : Ascending (insertFragment offset chunk fragments) := by
  induction fragments with
  | nil => exact List.pairwise_singleton ..
  | cons first rest ih =>
      obtain ⟨below, later⟩ := List.pairwise_cons.mp ascending
      simp only [insertFragment]
      split_ifs with before same
      · apply List.pairwise_cons.mpr
        refine ⟨?_, ascending⟩
        intro entry listed
        rcases List.mem_cons.mp listed with rfl | among
        · exact before
        · exact before.trans (below entry among)
      · apply List.pairwise_cons.mpr
        refine ⟨?_, later⟩
        intro entry listed
        have above := below entry listed
        omega
      · apply List.pairwise_cons.mpr
        refine ⟨?_, ih later⟩
        intro entry listed
        rcases insert_fragment_mem listed with rfl | among
        · dsimp only
          omega
        · exact below entry among

theorem insert_fragment_size (offset : Nat) (chunk : Bytes) (fragments : List (Nat × Bytes)) :
    totalSize (insertFragment offset chunk fragments) ≤ totalSize fragments + chunk.length := by
  induction fragments with
  | nil => simp [insertFragment, totalSize]
  | cons first rest ih =>
      simp only [insertFragment]
      split_ifs <;> simp only [total_size_cons] <;> omega

/-- What holds of every entry of the pending map: its fragments are in order and were all
received. -/
structure PendingWell (received : Nat) (entry : PendingBundle) : Prop where
  ascending : Ascending entry.fragments
  bounded : totalSize entry.fragments ≤ received

theorem accumulated_well {pending : PendingMap} {received : Nat}
    (well : ∀ seq entry, pending.lookup seq = some entry → PendingWell received entry)
    (bundle : Bundle) :
    PendingWell (received + (bundle.payload.getD []).length) (accumulated pending bundle) := by
  have before : PendingWell received (entryFor pending bundle.seqno bundle.totalDataLength) := by
    unfold entryFor
    cases found : pending.lookup bundle.seqno with
    | none => exact ⟨List.Pairwise.nil, Nat.zero_le _⟩
    | some entry => exact well bundle.seqno entry found
  constructor
  · exact insert_fragment_ascending _ _ before.ascending
  · exact (insert_fragment_size ..).trans (Nat.add_le_add_right before.bounded _)

theorem pending_well_step {pending : PendingMap} {received : Nat}
    (well : ∀ seq entry, pending.lookup seq = some entry → PendingWell received entry)
    (bundle : Bundle) (seq : UInt64) (entry : PendingBundle)
    (found : (receiveBundle pending bundle).1.lookup seq = some entry) :
    PendingWell (received + (bundle.payload.getD []).length) entry := by
  have older : ∀ other, pending.lookup seq = some other →
      PendingWell (received + (bundle.payload.getD []).length) other := by
    intro other known
    have held := well seq other known
    exact ⟨held.ascending, held.bounded.trans (Nat.le_add_right ..)⟩
  rcases receive_bundle_pending pending bundle with kept | ⟨-, erased | inserted⟩
  · rw [kept] at found
    exact older entry found
  · rw [erased] at found
    by_cases same : seq = bundle.seqno
    · rw [same, AList.lookup_erase] at found
      cases found
    · rw [AList.lookup_erase_ne same] at found
      exact older entry found
  · rw [inserted] at found
    by_cases same : seq = bundle.seqno
    · rw [same, AList.lookup_insert, Option.some.injEq] at found
      subst found
      exact accumulated_well well bundle
    · rw [AList.lookup_insert_ne same] at found
      exact older entry found

theorem pending_well (bundles : List Bundle) (seq : UInt64) (entry : PendingBundle)
    (found : (pendingAfter bundles).lookup seq = some entry) :
    PendingWell (receivedBytes bundles) entry := by
  induction bundles using List.reverseRecOn generalizing seq entry with
  | nil => simp [pendingAfter] at found
  | append_singleton bundles bundle ih =>
      rw [pendingAfter, List.foldl_append, List.foldl_cons, List.foldl_nil] at found
      have step := pending_well_step ih bundle seq entry found
      rw [receivedBytes, List.map_append, List.sum_append, List.map_singleton,
        List.sum_singleton]
      exact step

theorem receive_fragment_returned {pending : PendingMap} {bundle : Bundle} {payload : Bytes}
    (fragment : bundle.isFragment = true)
    (returned : (receiveBundle pending bundle).2 = some (.ok payload)) :
    (accumulated pending bundle).isComplete = true ∧
      payload = (accumulated pending bundle).reassemble := by
  cases carries : bundle.payload with
  | none => simp [receiveBundle, fragment, carries] at returned
  | some chunk =>
      rw [receive_fragment fragment carries] at returned
      split_ifs at returned with complete
      cases returned
      exact ⟨complete, rfl⟩

/-- For every sequence of bundles: a payload that a fragment completes covers the message,
has its length and has every byte from a fragment at that position, if and only if the
fragments accumulated for it tile the message. The buffer that is requested is never larger
than what was received. -/
theorem reassembly_covers_iff (bundles : List Bundle) {bundle : Bundle} {payload : Bytes}
    (fragment : bundle.isFragment = true)
    (returned : (receiveBundle (pendingAfter bundles) bundle).2 = some (.ok payload)) :
    (CoversMessage (accumulated (pendingAfter bundles) bundle) payload ↔
      TilesFrom 0 (accumulated (pendingAfter bundles) bundle).totalDataLength
        (accumulated (pendingAfter bundles) bundle).fragments) ∧
    (accumulated (pendingAfter bundles) bundle).totalDataLength ≤
      receivedBytes (bundles ++ [bundle]) := by
  obtain ⟨complete, rfl⟩ := receive_fragment_returned fragment returned
  have well := accumulated_well (pending_well bundles) bundle
  generalize accumulated (pendingAfter bundles) bundle = entry at complete well ⊢
  have content : entry.reassemble = joined entry.fragments := rfl
  constructor
  · rw [tiles_iff well.ascending]
    constructor
    · intro covers
      exact ⟨covers.covered, covers.size⟩
    · intro given
      have tiles := (tiles_iff well.ascending).mpr given
      refine ⟨given.1, given.2, ?_⟩
      intro position byte found
      have item := tiles_item tiles found
      rw [Nat.zero_add] at item
      exact item
  · have enough : entry.totalDataLength ≤ totalSize entry.fragments :=
      of_decide_eq_true complete
    rw [receivedBytes, List.map_append, List.sum_append, List.map_singleton, List.sum_singleton]
    exact enough.trans well.bounded

/-- Two fragments of one message in the wrong order. -/
theorem reassembly_covers_swapped :
    CoversMessage (accumulated (pendingAfter [fragmentBundle 0 2 4 [3, 4]])
      (fragmentBundle 0 0 4 [1, 2])) [1, 2, 3, 4] := by
  apply (reassembly_covers_iff [fragmentBundle 0 2 4 [3, 4]] rfl (by rfl)).1.mpr
  decide +kernel

/-! ## Gaps are closed up -/

/-- The first half of four bytes, then two bytes that lie behind the end. -/
theorem gapped_fragments_returned :
    (receiveBundle (pendingAfter [fragmentBundle 0 0 4 [1, 2]]) (fragmentBundle 0 9 4 [3, 4])).2 =
        some (.ok [1, 2, 3, 4]) ∧
      ¬ CoversMessage (accumulated (pendingAfter [fragmentBundle 0 0 4 [1, 2]])
        (fragmentBundle 0 9 4 [3, 4])) [1, 2, 3, 4] := by
  refine ⟨by rfl, ?_⟩
  intro covers
  have entry : (accumulated (pendingAfter [fragmentBundle 0 0 4 [1, 2]])
      (fragmentBundle 0 9 4 [3, 4])).fragments = [(0, [1, 2]), (9, [3, 4])] := by rfl
  obtain ⟨fragment, listed, low, high⟩ := covers.covered 2 (Nat.zero_le _) (by decide +kernel)
  rw [entry] at listed
  simp only [List.mem_cons, List.not_mem_nil, or_false] at listed
  rcases listed with rfl | rfl
  · exact absurd high (by decide)
  · exact absurd low (by decide)

end Pathweave
