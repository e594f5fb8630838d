import Mathlib.Data.List.AList
import Mathlib.Data.List.Pairwise
import Pathweave.KeyRegistry
import Pathweave.SampleMesh

/-!
# Histories of the key registry

The registry keeps no record of when or how a key came in: `gossip_order` alone
decides what may be evicted. Here the record is read off the calls themselves.
A peer counts as learned directly when some `insert_direct` for it has been
followed by states that all hold it, and one peer has been present longer than
another when some state since which the first was always held is one since which
the second was not. Both notions speak of entries only, and the results compare
them with the queue the code keeps.
-/

namespace Pathweave

open ByteStrings

set_option autoImplicit false

namespace KeyRegistryState

def Holds (registry : KeyRegistryState) (peer : PeerId) : Prop :=
  peer ∈ registry.entries

instance (registry : KeyRegistryState) (peer : PeerId) : Decidable (registry.Holds peer) :=
  decidable_of_iff ((registry.entries.lookup peer).isSome = true) AList.lookup_isSome

def size (registry : KeyRegistryState) : Nat :=
  registry.entries.entries.length

theorem size_eq_keys (registry : KeyRegistryState) :
    registry.size = registry.entries.keys.length := by
  simp [size, AList.keys, List.keys]

section Effects

variable (registry : KeyRegistryState) (peer other : PeerId) (key : PublicKey)

@[simp] theorem holds_remove :
    (registry.remove peer).Holds other ↔ other ≠ peer ∧ registry.Holds other :=
  AList.mem_erase

@[simp] theorem holds_insert_direct :
    (registry.insertDirect peer key).1.Holds other ↔ other = peer ∨ registry.Holds other :=
  AList.mem_insert _

@[simp] theorem holds_append_gossip :
    (registry.appendGossip peer key).Holds other ↔ other = peer ∨ registry.Holds other :=
  AList.mem_insert _

theorem length_insert :
    (registry.entries.insert peer key).entries.length =
      (registry.entries.keys.erase peer).length + 1 := by
  have counted := congrArg List.length (AList.keys_insert (b := key) (a := peer) registry.entries)
  rw [List.length_cons] at counted
  rw [← counted]
  exact (List.length_map ..).symm

theorem length_insert_absent (absent : ¬registry.Holds peer) :
    (registry.entries.insert peer key).entries.length = registry.size + 1 := by
  rw [length_insert, List.erase_of_not_mem absent, size_eq_keys]

theorem length_insert_held (held : registry.Holds peer) :
    (registry.entries.insert peer key).entries.length = registry.size := by
  have positive : 0 < registry.entries.keys.length := List.length_pos_of_mem held
  rw [length_insert, List.length_erase_of_mem held, size_eq_keys]
  omega

theorem length_erase_held (held : registry.Holds peer) :
    (registry.entries.erase peer).entries.length + 1 = registry.size := by
  have positive : 0 < registry.entries.keys.length := List.length_pos_of_mem held
  have counted := congrArg List.length (AList.keys_erase peer registry.entries)
  rw [List.length_erase_of_mem held] at counted
  have same : (registry.entries.erase peer).entries.length =
      (registry.entries.erase peer).keys.length := by
    simp [AList.keys, List.keys]
  rw [size_eq_keys, same]
  omega

end Effects

/-- What a gossip insertion can do to the peers held, to the queue and to the
size. The constructors are the branches of `insert_gossip`. -/
inductive GossipEffect (registry : KeyRegistryState) (peer : PeerId)
    (next : KeyRegistryState) : Prop where
  | refreshed
      (known : registry.Holds peer)
      (holds : ∀ other, next.Holds other ↔ registry.Holds other)
      (order : next.gossipOrder = registry.gossipOrder)
      (size : next.size = registry.size)
  | appended
      (absent : ¬registry.Holds peer)
      (room : ∀ max, registry.maxSize = some max → registry.size < max)
      (holds : ∀ other, next.Holds other ↔ other = peer ∨ registry.Holds other)
      (order : next.gossipOrder = registry.gossipOrder ++ [peer])
      (size : next.size = registry.size + 1)
  | evicted (max : Nat) (oldest : PeerId) (younger : List PeerId)
      (absent : ¬registry.Holds peer)
      (bounded : registry.maxSize = some max)
      (queue : registry.gossipOrder = oldest :: younger)
      (holds : ∀ other,
        next.Holds other ↔ other = peer ∨ (other ≠ oldest ∧ registry.Holds other))
      (order : next.gossipOrder = younger ++ [peer])
      (size : next.size = registry.size)
  | dropped
      (absent : ¬registry.Holds peer)
      (queue : registry.gossipOrder = [])
      (same : next = registry)

/-- The queue must list held peers only: otherwise evicting its head would not
make room. -/
theorem insert_gossip_effect (registry : KeyRegistryState) (peer : PeerId) (key : PublicKey)
    (listed : ∀ queued ∈ registry.gossipOrder, registry.Holds queued) :
    GossipEffect registry peer (registry.insertGossip peer key) := by
  unfold insertGossip
  split_ifs with known
  · have held : registry.Holds peer := AList.lookup_isSome.mp known
    apply GossipEffect.refreshed held
    · intro other
      have inserted : other ∈ registry.entries.insert peer key ↔
          other = peer ∨ other ∈ registry.entries := AList.mem_insert _
      constructor
      · intro present
        cases inserted.mp present with
        | inl same => exact same ▸ held
        | inr older => exact older
      · intro present
        exact inserted.mpr (.inr present)
    · rfl
    · exact length_insert_held registry peer key held
  · have absent : ¬registry.Holds peer := fun held => known (AList.lookup_isSome.mpr held)
    split
    · rename_i unbounded
      apply GossipEffect.appended absent _ (fun other => holds_append_gossip ..) rfl
        (length_insert_absent registry peer key absent)
      intro max bounded
      rw [unbounded] at bounded
      cases bounded
    · rename_i max bounded
      split_ifs with full
      · split
        · rename_i oldest younger queue
          have oldestHeld : registry.Holds oldest := listed oldest (by simp [queue])
          have fresh : ¬KeyRegistryState.Holds
              { registry with
                entries := registry.entries.erase oldest
                gossipOrder := younger } peer := by
            intro held
            exact absent (AList.mem_erase.mp held).2
          apply GossipEffect.evicted max oldest younger absent bounded queue _ rfl
          · have inserted := length_insert_absent _ peer key fresh
            have erased := length_erase_held registry oldest oldestHeld
            simp only [appendGossip, size] at inserted erased ⊢
            omega
          · intro other
            rw [holds_append_gossip]
            exact or_congr_right AList.mem_erase
        · rename_i queue
          exact .dropped absent queue rfl
      · apply GossipEffect.appended absent _ (fun other => holds_append_gossip ..) rfl
          (length_insert_absent registry peer key absent)
        intro other same
        rw [bounded] at same
        cases same
        simp only [size]
        omega

end KeyRegistryState

open KeyRegistryState

/-! ## Sequences of calls -/

inductive RegistryCall where
  | insertDirect (peer : PeerId) (key : PublicKey)
  | insertGossip (peer : PeerId) (key : PublicKey)
  | remove (peer : PeerId)
deriving DecidableEq

def RegistryCall.apply (registry : KeyRegistryState) : RegistryCall → KeyRegistryState
  | .insertDirect peer key => (registry.insertDirect peer key).1
  | .insertGossip peer key => registry.insertGossip peer key
  | .remove peer => registry.remove peer

def registryAfter (maxSize : Option Nat) (calls : List RegistryCall) : KeyRegistryState :=
  calls.foldl RegistryCall.apply (KeyRegistryState.empty maxSize)

@[simp] theorem registry_after_nil (maxSize : Option Nat) :
    registryAfter maxSize [] = KeyRegistryState.empty maxSize := rfl

theorem registry_after_snoc (maxSize : Option Nat) (calls : List RegistryCall)
    (call : RegistryCall) :
    registryAfter maxSize (calls ++ [call]) = call.apply (registryAfter maxSize calls) := by
  simp [registryAfter]

def PresentSince (maxSize : Option Nat) (calls : List RegistryCall) (start : Nat)
    (peer : PeerId) : Prop :=
  ∀ count, start ≤ count → count ≤ calls.length →
    (registryAfter maxSize (calls.take count)).Holds peer

/-- Some `insert_direct` for the peer has been made since it was last absent. -/
def LearnedDirectly (maxSize : Option Nat) (calls : List RegistryCall) (peer : PeerId) : Prop :=
  ∃ count key, calls[count]? = some (.insertDirect peer key) ∧
    PresentSince maxSize calls (count + 1) peer

def PresentLonger (maxSize : Option Nat) (calls : List RegistryCall)
    (older younger : PeerId) : Prop :=
  ∃ start, start ≤ calls.length ∧ PresentSince maxSize calls start older ∧
    ¬PresentSince maxSize calls start younger

section Snoc

variable {maxSize : Option Nat} {calls : List RegistryCall} {call : RegistryCall}
  {peer older younger : PeerId}

theorem present_since_now {start : Nat} (present : PresentSince maxSize calls start peer)
    (reached : start ≤ calls.length) : (registryAfter maxSize calls).Holds peer := by
  have last := present calls.length reached (Nat.le_refl _)
  rwa [List.take_length] at last

theorem present_since_length :
    PresentSince maxSize calls calls.length peer ↔ (registryAfter maxSize calls).Holds peer := by
  constructor
  · intro present
    exact present_since_now present (Nat.le_refl _)
  · intro held count lower upper
    rwa [Nat.le_antisymm upper lower, List.take_length]

theorem present_since_snoc {start : Nat} (reached : start ≤ calls.length) :
    PresentSince maxSize (calls ++ [call]) start peer ↔
      PresentSince maxSize calls start peer ∧
        (registryAfter maxSize (calls ++ [call])).Holds peer := by
  constructor
  · intro present
    constructor
    · intro count lower upper
      have held := present count lower (by simp; omega)
      rwa [List.take_append_of_le_length upper] at held
    · exact present_since_now present (by simp; omega)
  · intro both count lower upper
    rcases Nat.lt_or_ge calls.length count with last | earlier
    · have whole : (calls ++ [call]).take count = calls ++ [call] :=
        List.take_of_length_le (by simpa using Nat.succ_le_of_lt last)
      rw [whole]
      exact both.2
    · rw [List.take_append_of_le_length earlier]
      exact both.1 count lower earlier

theorem learned_directly_held (learned : LearnedDirectly maxSize calls peer) :
    (registryAfter maxSize calls).Holds peer := by
  obtain ⟨count, key, called, present⟩ := learned
  have bound : count < calls.length := (List.getElem?_eq_some_iff.mp called).1
  exact present_since_now present bound

theorem learned_directly_snoc :
    LearnedDirectly maxSize (calls ++ [call]) peer ↔
      (registryAfter maxSize (calls ++ [call])).Holds peer ∧
        ((∃ key, call = .insertDirect peer key) ∨ LearnedDirectly maxSize calls peer) := by
  constructor
  · intro learned
    have held := learned_directly_held learned
    obtain ⟨count, key, called, present⟩ := learned
    apply And.intro held
    rcases Nat.lt_or_ge count calls.length with earlier | last
    · rw [List.getElem?_append_left earlier] at called
      exact .inr ⟨count, key, called, ((present_since_snoc earlier).mp present).1⟩
    · rw [List.getElem?_append_right last] at called
      have final := List.mem_of_getElem? called
      exact .inl ⟨key, (List.mem_singleton.mp final).symm⟩
  · intro both
    obtain ⟨held, new | old⟩ := both
    · obtain ⟨key, same⟩ := new
      apply Exists.intro calls.length
      apply Exists.intro key
      constructor
      · simp [same]
      · intro count lower upper
        have whole : (calls ++ [call]).take count = calls ++ [call] :=
          List.take_of_length_le (by simpa using lower)
        rwa [whole]
    · obtain ⟨count, key, called, present⟩ := old
      have bound : count < calls.length := (List.getElem?_eq_some_iff.mp called).1
      exact ⟨count, key, by rwa [List.getElem?_append_left bound],
        (present_since_snoc bound).mpr ⟨present, held⟩⟩

theorem present_longer_snoc (longer : PresentLonger maxSize calls older younger)
    (held : (registryAfter maxSize (calls ++ [call])).Holds older) :
    PresentLonger maxSize (calls ++ [call]) older younger := by
  obtain ⟨start, reached, present, missing⟩ := longer
  apply Exists.intro start
  constructor
  · simp only [List.length_append]
    omega
  · exact ⟨(present_since_snoc reached).mpr ⟨present, held⟩,
      fun lasting => missing ((present_since_snoc reached).mp lasting).1⟩

theorem present_longer_than_new (before : (registryAfter maxSize calls).Holds older)
    (absent : ¬(registryAfter maxSize calls).Holds younger)
    (held : (registryAfter maxSize (calls ++ [call])).Holds older) :
    PresentLonger maxSize (calls ++ [call]) older younger :=
  present_longer_snoc ⟨calls.length, Nat.le_refl _, present_since_length.mpr before,
    fun present => absent (present_since_length.mp present)⟩ held

end Snoc

/-- The record of the calls and the queue of the code in step. -/
structure RegistryTracked (maxSize : Option Nat) (calls : List RegistryCall) : Prop where
  bound : (registryAfter maxSize calls).maxSize = maxSize
  distinct : (registryAfter maxSize calls).gossipOrder.Nodup
  listed : ∀ peer ∈ (registryAfter maxSize calls).gossipOrder,
    (registryAfter maxSize calls).Holds peer
  direct : ∀ peer, (registryAfter maxSize calls).Holds peer →
    (peer ∉ (registryAfter maxSize calls).gossipOrder ↔ LearnedDirectly maxSize calls peer)
  ordered : (registryAfter maxSize calls).gossipOrder.Pairwise (PresentLonger maxSize calls)

section Tracked

variable {maxSize : Option Nat} {calls : List RegistryCall} {peer : PeerId} {key : PublicKey}

theorem ordered_kept {call : RegistryCall} {kept : List PeerId}
    (ordered : kept.Pairwise (PresentLonger maxSize calls))
    (held : ∀ queued ∈ kept, (registryAfter maxSize (calls ++ [call])).Holds queued) :
    kept.Pairwise (PresentLonger maxSize (calls ++ [call])) := by
  apply ordered.imp_of_mem
  intro older younger olderKept _ longer
  exact present_longer_snoc longer (held older olderKept)

/-- A gossip-learned peer that stays held stays gossip-learned unless the call
is its own direct insertion. -/
theorem learned_directly_kept {call : RegistryCall}
    (other : ∀ key, call ≠ .insertDirect peer key)
    (held : (registryAfter maxSize (calls ++ [call])).Holds peer) :
    LearnedDirectly maxSize (calls ++ [call]) peer ↔ LearnedDirectly maxSize calls peer := by
  rw [learned_directly_snoc]
  constructor
  · intro both
    cases both.2 with
    | inl inserted => exact absurd inserted.choose_spec (other _)
    | inr learned => exact learned
  · intro learned
    exact ⟨held, .inr learned⟩

theorem tracked_remove (tracked : RegistryTracked maxSize calls) (peer : PeerId) :
    RegistryTracked maxSize (calls ++ [RegistryCall.remove peer]) := by
  have after : registryAfter maxSize (calls ++ [RegistryCall.remove peer]) =
      (registryAfter maxSize calls).remove peer := registry_after_snoc ..
  have order : (registryAfter maxSize (calls ++ [RegistryCall.remove peer])).gossipOrder =
      (registryAfter maxSize calls).gossipOrder.filter (· ≠ peer) := by
    rw [after]
    rfl
  have listed : ∀ queued ∈
      (registryAfter maxSize (calls ++ [RegistryCall.remove peer])).gossipOrder,
      (registryAfter maxSize (calls ++ [RegistryCall.remove peer])).Holds queued := by
    intro queued member
    rw [order, List.mem_filter, decide_eq_true_iff] at member
    rw [after, holds_remove]
    exact ⟨member.2, tracked.listed queued member.1⟩
  constructor
  · rw [after]
    exact tracked.bound
  · rw [order]
    exact tracked.distinct.filter _
  · exact listed
  · intro other held
    have kept := held
    rw [after, holds_remove] at kept
    rw [learned_directly_kept (by intro key; simp) held, ← tracked.direct other kept.2, order]
    simp [kept.1]
  · apply ordered_kept _ listed
    rw [order]
    exact tracked.ordered.filter _

theorem tracked_insert_direct (tracked : RegistryTracked maxSize calls) (peer : PeerId)
    (key : PublicKey) :
    RegistryTracked maxSize (calls ++ [RegistryCall.insertDirect peer key]) := by
  have after : registryAfter maxSize (calls ++ [RegistryCall.insertDirect peer key]) =
      ((registryAfter maxSize calls).insertDirect peer key).1 := registry_after_snoc ..
  have order : (registryAfter maxSize (calls ++ [RegistryCall.insertDirect peer key])).gossipOrder =
      (registryAfter maxSize calls).gossipOrder.filter (· ≠ peer) := by
    rw [after]
    rfl
  have listed : ∀ queued ∈
      (registryAfter maxSize (calls ++ [RegistryCall.insertDirect peer key])).gossipOrder,
      (registryAfter maxSize (calls ++ [RegistryCall.insertDirect peer key])).Holds queued := by
    intro queued member
    rw [order, List.mem_filter] at member
    rw [after, holds_insert_direct]
    exact .inr (tracked.listed queued member.1)
  constructor
  · rw [after]
    exact tracked.bound
  · rw [order]
    exact tracked.distinct.filter _
  · exact listed
  · intro other held
    by_cases same : other = peer
    · -- The promotion: out of the queue, and learned directly by this very call.
      subst same
      have learned :
          LearnedDirectly maxSize (calls ++ [RegistryCall.insertDirect other key]) other :=
        learned_directly_snoc.mpr ⟨held, .inl ⟨key, rfl⟩⟩
      rw [order]
      simp [learned]
    · have kept := held
      rw [after, holds_insert_direct, or_iff_right same] at kept
      have unrelated : ∀ found, RegistryCall.insertDirect peer key ≠ .insertDirect other found := by
        intro found equal
        cases equal
        exact same rfl
      rw [learned_directly_kept unrelated held, ← tracked.direct other kept, order]
      simp [same]
  · apply ordered_kept _ listed
    rw [order]
    exact tracked.ordered.filter _

/-- The two growing branches of `insert_gossip`: the new peer goes behind what is
kept of the queue, which every held peer outside the new queue has left before. -/
theorem tracked_queued (tracked : RegistryTracked maxSize calls)
    {kept : List PeerId} (shorter : kept.Sublist (registryAfter maxSize calls).gossipOrder)
    (absent : ¬(registryAfter maxSize calls).Holds peer)
    (bound : (registryAfter maxSize (calls ++ [RegistryCall.insertGossip peer key])).maxSize =
      maxSize)
    (order : (registryAfter maxSize (calls ++ [RegistryCall.insertGossip peer key])).gossipOrder =
      kept ++ [peer])
    (holds : ∀ other,
      (registryAfter maxSize (calls ++ [RegistryCall.insertGossip peer key])).Holds other ↔
      other = peer ∨ (registryAfter maxSize calls).Holds other ∧
        (other ∈ kept ∨ other ∉ (registryAfter maxSize calls).gossipOrder)) :
    RegistryTracked maxSize (calls ++ [RegistryCall.insertGossip peer key]) := by
  have keptHeld : ∀ queued ∈ kept, (registryAfter maxSize calls).Holds queued := by
    intro queued member
    exact tracked.listed queued (shorter.subset member)
  have stillHeld : ∀ queued ∈ kept,
      (registryAfter maxSize (calls ++ [RegistryCall.insertGossip peer key])).Holds queued := by
    intro queued member
    exact (holds queued).mpr (.inr ⟨keptHeld queued member, .inl member⟩)
  have newcomer : peer ∉ kept := fun member => absent (keptHeld peer member)
  constructor
  · exact bound
  · rw [order]
    apply (tracked.distinct.sublist shorter).append (List.nodup_singleton peer)
    simpa using newcomer
  · intro queued member
    rw [order, List.mem_append, List.mem_singleton] at member
    cases member with
    | inl old => exact stillHeld queued old
    | inr new => exact (holds queued).mpr (.inl new)
  · intro other held
    rw [learned_directly_kept (by intro found; simp) held, order, List.mem_append,
      List.mem_singleton, not_or]
    cases (holds other).mp held with
    | inl same =>
        subst same
        have unlearned : ¬LearnedDirectly maxSize calls other :=
          fun learned => absent (learned_directly_held learned)
        simp [unlearned]
    | inr older =>
        have distinct : other ≠ peer := fun same => absent (same ▸ older.1)
        rw [← tracked.direct other older.1, and_iff_left distinct]
        constructor
        · intro left
          exact older.2.resolve_left left
        · intro outside member
          exact outside (shorter.subset member)
  · rw [order, List.pairwise_append]
    apply And.intro (ordered_kept (tracked.ordered.sublist shorter) stillHeld)
    apply And.intro (List.pairwise_singleton _ _)
    intro older member younger new
    rw [List.mem_singleton] at new
    subst new
    exact present_longer_than_new (keptHeld older member) absent (stillHeld older member)

theorem insert_gossip_max_size (registry : KeyRegistryState) (peer : PeerId) (key : PublicKey) :
    (registry.insertGossip peer key).maxSize = registry.maxSize := by
  unfold insertGossip
  split_ifs
  · rfl
  · split
    · rfl
    · split_ifs
      · split <;> rfl
      · rfl

theorem tracked_insert_gossip (tracked : RegistryTracked maxSize calls) (peer : PeerId)
    (key : PublicKey) :
    RegistryTracked maxSize (calls ++ [RegistryCall.insertGossip peer key]) := by
  have after : registryAfter maxSize (calls ++ [RegistryCall.insertGossip peer key]) =
      (registryAfter maxSize calls).insertGossip peer key := registry_after_snoc ..
  have bound : (registryAfter maxSize (calls ++ [RegistryCall.insertGossip peer key])).maxSize =
      maxSize := by
    rw [after, insert_gossip_max_size]
    exact tracked.bound
  -- Without a change to the held peers or to the queue nothing is to be shown.
  have unchanged :
      (∀ other,
        (registryAfter maxSize (calls ++ [RegistryCall.insertGossip peer key])).Holds other ↔
        (registryAfter maxSize calls).Holds other) →
      (registryAfter maxSize (calls ++ [RegistryCall.insertGossip peer key])).gossipOrder =
        (registryAfter maxSize calls).gossipOrder →
      RegistryTracked maxSize (calls ++ [RegistryCall.insertGossip peer key]) := by
    intro holds order
    constructor
    · exact bound
    · rw [order]
      exact tracked.distinct
    · rw [order]
      intro queued member
      exact (holds queued).mpr (tracked.listed queued member)
    · intro other held
      rw [learned_directly_kept (by intro found; simp) held, order]
      exact tracked.direct other ((holds other).mp held)
    · rw [order]
      apply ordered_kept tracked.ordered
      intro queued member
      exact (holds queued).mpr (tracked.listed queued member)
  have effect := insert_gossip_effect (registryAfter maxSize calls) peer key tracked.listed
  rw [← after] at effect
  cases effect with
  | refreshed known holds order size => exact unchanged holds order
  | appended absent room holds order size =>
      apply tracked_queued tracked (List.Sublist.refl _) absent bound order
      intro other
      rw [holds other, and_iff_left (Classical.em _)]
  | evicted max oldest younger absent bounded queue holds order size =>
      have shorter : younger.Sublist (registryAfter maxSize calls).gossipOrder := by
        rw [queue]
        exact List.sublist_cons_self ..
      apply tracked_queued tracked shorter absent bound order
      intro other
      have distinct := tracked.distinct
      rw [queue, List.nodup_cons] at distinct
      rw [holds other, queue, List.mem_cons, not_or, and_comm]
      -- Not the head of a queue without duplicates: in its tail or outside it.
      have split : other ≠ oldest ↔ (other ∈ younger ∨ other ≠ oldest ∧ other ∉ younger) := by
        constructor
        · intro different
          by_cases member : other ∈ younger
          · exact .inl member
          · exact .inr ⟨different, member⟩
        · intro either same
          cases either with
          | inl member => exact distinct.1 (same ▸ member)
          | inr outside => exact outside.1 same
      rw [split]
  | dropped absent queue same =>
      apply unchanged
      · rw [same]
        exact fun _ => Iff.rfl
      · rw [same]

end Tracked

theorem registry_tracked (maxSize : Option Nat) (calls : List RegistryCall) :
    RegistryTracked maxSize calls := by
  induction calls using List.reverseRecOn with
  | nil =>
      constructor
      · rfl
      · exact List.nodup_nil
      · intro peer member
        cases member
      · intro peer held
        exact absurd held (AList.notMem_empty peer)
      · exact List.Pairwise.nil
  | append_singleton calls call tracked =>
      cases call with
      | insertDirect peer key => exact tracked_insert_direct tracked peer key
      | insertGossip peer key => exact tracked_insert_gossip tracked peer key
      | remove peer => exact tracked_remove tracked peer

/-! ## The reference model -/

/-- What the calls made so far say about the registry and about the next call. -/
structure MeetsReference (maxSize : Option Nat) (calls : List RegistryCall) : Prop where
  queueDistinct : (registryAfter maxSize calls).gossipOrder.Nodup
  queueHeld : ∀ peer ∈ (registryAfter maxSize calls).gossipOrder,
    (registryAfter maxSize calls).Holds peer
  outsideQueue : ∀ peer,
    ((registryAfter maxSize calls).Holds peer ∧
        peer ∉ (registryAfter maxSize calls).gossipOrder) ↔
      LearnedDirectly maxSize calls peer
  directKept : ∀ peer (call : RegistryCall), LearnedDirectly maxSize calls peer →
    ¬(call.apply (registryAfter maxSize calls)).Holds peer → call = .remove peer
  gossipBounded : ∀ bound peer key, maxSize = some bound →
    ((registryAfter maxSize calls).insertGossip peer key).size ≤
      max (registryAfter maxSize calls).size bound
  gossipEvicts : ∀ peer key evicted, (registryAfter maxSize calls).Holds evicted →
    ¬((registryAfter maxSize calls).insertGossip peer key).Holds evicted →
    ¬LearnedDirectly maxSize calls evicted ∧
      ∀ other, (registryAfter maxSize calls).Holds other → other ≠ evicted →
        ((registryAfter maxSize calls).insertGossip peer key).Holds other ∧
          (LearnedDirectly maxSize calls other ∨ PresentLonger maxSize calls evicted other)
  unboundedKeeps : maxSize = none → ∀ peer (call : RegistryCall),
    (registryAfter maxSize calls).Holds peer →
    ¬(call.apply (registryAfter maxSize calls)).Holds peer → call = .remove peer
  directReturns : ∀ peer key,
    ((registryAfter maxSize calls).insertDirect peer key).2 = true ↔
      ¬(registryAfter maxSize calls).Holds peer

section Reference

variable {maxSize : Option Nat} {calls : List RegistryCall}

theorem insert_gossip_loses {registry : KeyRegistryState} {peer lost : PeerId} {key : PublicKey}
    (listed : ∀ queued ∈ registry.gossipOrder, registry.Holds queued)
    (held : registry.Holds lost) (missing : ¬(registry.insertGossip peer key).Holds lost) :
    ∃ bound younger, registry.maxSize = some bound ∧ registry.gossipOrder = lost :: younger ∧
      ∀ other, registry.Holds other → other ≠ lost →
        (registry.insertGossip peer key).Holds other := by
  cases insert_gossip_effect registry peer key listed with
  | refreshed known holds order size => exact absurd ((holds lost).mpr held) missing
  | appended absent room holds order size =>
      exact absurd ((holds lost).mpr (.inr held)) missing
  | evicted bound oldest younger absent bounded queue holds order size =>
      have same : lost = oldest := by
        by_contra different
        exact missing ((holds lost).mpr (.inr ⟨different, held⟩))
      subst same
      apply Exists.intro bound
      apply Exists.intro younger
      apply And.intro bounded
      apply And.intro queue
      intro other otherHeld different
      exact (holds other).mpr (.inr ⟨different, otherHeld⟩)
  | dropped absent queue same =>
      rw [same] at missing
      exact absurd held missing

theorem lost_by_remove {registry : KeyRegistryState} {peer : PeerId} {call : RegistryCall}
    (gossip : ∀ other key, call = .insertGossip other key →
      (registry.insertGossip other key).Holds peer)
    (held : registry.Holds peer) (missing : ¬(call.apply registry).Holds peer) :
    call = .remove peer := by
  cases call with
  | insertDirect other key =>
      exact absurd ((holds_insert_direct ..).mpr (.inr held)) missing
  | insertGossip other key => exact absurd (gossip other key rfl) missing
  | remove other =>
      by_cases same : peer = other
      · rw [same]
      · exact absurd ((holds_remove ..).mpr ⟨same, held⟩) missing

theorem learned_directly_iff (tracked : RegistryTracked maxSize calls) (peer : PeerId) :
    LearnedDirectly maxSize calls peer ↔
      (registryAfter maxSize calls).Holds peer ∧
        peer ∉ (registryAfter maxSize calls).gossipOrder := by
  constructor
  · intro learned
    have held := learned_directly_held learned
    exact ⟨held, (tracked.direct peer held).mpr learned⟩
  · intro both
    exact (tracked.direct peer both.1).mp both.2

theorem gossip_keeps_direct (tracked : RegistryTracked maxSize calls) {peer other : PeerId}
    {key : PublicKey} (learned : LearnedDirectly maxSize calls peer) :
    ((registryAfter maxSize calls).insertGossip other key).Holds peer := by
  by_contra missing
  obtain ⟨held, outside⟩ := (learned_directly_iff tracked peer).mp learned
  obtain ⟨bound, younger, bounded, queue, others⟩ :=
    insert_gossip_loses tracked.listed held missing
  rw [queue] at outside
  exact outside (List.mem_cons_self ..)

theorem gossip_size_bounded (tracked : RegistryTracked maxSize calls) {bound : Nat}
    (bounded : maxSize = some bound) (peer : PeerId) (key : PublicKey) :
    ((registryAfter maxSize calls).insertGossip peer key).size ≤
      max (registryAfter maxSize calls).size bound := by
  cases insert_gossip_effect _ peer key tracked.listed with
  | refreshed known holds order size => omega
  | appended absent room holds order size =>
      have below := room bound (tracked.bound.trans bounded)
      omega
  | evicted found oldest younger absent bounded queue holds order size => omega
  | dropped absent queue same =>
      rw [same]
      exact Nat.le_max_left ..

theorem gossip_evicts_longest (tracked : RegistryTracked maxSize calls) {peer evicted : PeerId}
    {key : PublicKey} (held : (registryAfter maxSize calls).Holds evicted)
    (missing : ¬((registryAfter maxSize calls).insertGossip peer key).Holds evicted) :
    ¬LearnedDirectly maxSize calls evicted ∧
      ∀ other, (registryAfter maxSize calls).Holds other → other ≠ evicted →
        ((registryAfter maxSize calls).insertGossip peer key).Holds other ∧
          (LearnedDirectly maxSize calls other ∨ PresentLonger maxSize calls evicted other) := by
  obtain ⟨bound, younger, bounded, queue, others⟩ :=
    insert_gossip_loses tracked.listed held missing
  have ordered := tracked.ordered
  rw [queue, List.pairwise_cons] at ordered
  constructor
  · intro learned
    exact missing (gossip_keeps_direct tracked learned)
  · intro other otherHeld different
    apply And.intro (others other otherHeld different)
    by_cases queued : other ∈ younger
    · exact .inr (ordered.1 other queued)
    · apply Or.inl
      rw [learned_directly_iff tracked, queue, List.mem_cons, not_or]
      exact ⟨otherHeld, different, queued⟩

end Reference

theorem registry_meets_reference (maxSize : Option Nat) (calls : List RegistryCall) :
    MeetsReference maxSize calls := by
  have tracked := registry_tracked maxSize calls
  constructor
  · exact tracked.distinct
  · exact tracked.listed
  · intro peer
    exact (learned_directly_iff tracked peer).symm
  · intro peer call learned missing
    apply lost_by_remove _ (learned_directly_held learned) missing
    intro other key _
    exact gossip_keeps_direct tracked learned
  · intro bound peer key bounded
    exact gossip_size_bounded tracked bounded peer key
  · intro peer key evicted held missing
    exact gossip_evicts_longest tracked held missing
  · intro unbounded peer call held missing
    apply lost_by_remove _ held missing
    intro other key _
    by_contra lost
    obtain ⟨bound, younger, bounded, queue, others⟩ :=
      insert_gossip_loses tracked.listed held lost
    rw [tracked.bound, unbounded] at bounded
    cases bounded
  · intro peer key
    simp only [KeyRegistryState.insertDirect, Option.isNone_iff_eq_none]
    exact AList.lookup_eq_none

/-! ## The size bound -/

def OverBoundOnlyDirect (bound : Nat) (calls : List RegistryCall) : Prop :=
  bound < (registryAfter (some bound) calls).size →
    ∀ peer, (registryAfter (some bound) calls).Holds peer →
      LearnedDirectly (some bound) calls peer

/-- Every `insert_direct` of an absent peer finds room, or nothing that gossip brought. -/
def DirectInsertionsFit (bound : Nat) (calls : List RegistryCall) : Prop :=
  ∀ count peer key, calls[count]? = some (.insertDirect peer key) →
    (registryAfter (some bound) (calls.take count)).Holds peer ∨
      (registryAfter (some bound) (calls.take count)).size < bound ∨
      ∀ other, (registryAfter (some bound) (calls.take count)).Holds other →
        LearnedDirectly (some bound) (calls.take count) other

section SizeBound

variable {bound : Nat} {calls : List RegistryCall}

theorem all_direct_iff (maxSize : Option Nat) (calls : List RegistryCall) :
    (∀ peer, (registryAfter maxSize calls).Holds peer → LearnedDirectly maxSize calls peer) ↔
      (registryAfter maxSize calls).gossipOrder = [] := by
  have tracked := registry_tracked maxSize calls
  constructor
  · intro learned
    apply List.eq_nil_iff_forall_not_mem.mpr
    intro peer queued
    have held := tracked.listed peer queued
    exact (tracked.direct peer held).mpr (learned peer held) queued
  · intro empty peer held
    apply (tracked.direct peer held).mp
    simp [empty]

theorem over_bound_only_direct_iff_queue :
    OverBoundOnlyDirect bound calls ↔
      (bound < (registryAfter (some bound) calls).size →
        (registryAfter (some bound) calls).gossipOrder = []) :=
  imp_congr_right fun _ => all_direct_iff (some bound) calls

theorem direct_insertions_fit_take (count : Nat) (fit : DirectInsertionsFit bound calls) :
    DirectInsertionsFit bound (calls.take count) := by
  intro earlier peer key called
  have within : earlier < (calls.take count).length := (List.getElem?_eq_some_iff.mp called).1
  rw [List.length_take] at within
  rw [List.getElem?_take_of_lt (by omega)] at called
  have fits := fit earlier peer key called
  rwa [List.take_take, Nat.min_eq_left (by omega)]

theorem size_insert_direct (registry : KeyRegistryState) (peer : PeerId) (key : PublicKey) :
    (registry.insertDirect peer key).1.size =
      if registry.Holds peer then registry.size else registry.size + 1 := by
  split_ifs with held
  · exact length_insert_held registry peer key held
  · exact length_insert_absent registry peer key held

theorem size_remove_le (registry : KeyRegistryState) (peer : PeerId) :
    (registry.remove peer).size ≤ registry.size := by
  rw [size_eq_keys, size_eq_keys]
  have keys : (registry.remove peer).entries.keys = registry.entries.keys.erase peer :=
    AList.keys_erase peer registry.entries
  rw [keys]
  exact List.length_erase_le

theorem over_bound_only_direct_snoc {call : RegistryCall}
    (before : OverBoundOnlyDirect bound calls)
    (fits : ∀ peer key, call = .insertDirect peer key →
      (registryAfter (some bound) calls).Holds peer ∨
        (registryAfter (some bound) calls).size < bound ∨
        (registryAfter (some bound) calls).gossipOrder = []) :
    OverBoundOnlyDirect bound (calls ++ [call]) := by
  rw [over_bound_only_direct_iff_queue] at before ⊢
  rw [registry_after_snoc]
  have listed := (registry_tracked (some bound) calls).listed
  have limited := (registry_tracked (some bound) calls).bound
  generalize registryAfter (some bound) calls = registry at *
  intro above
  cases call with
  | insertDirect peer key =>
      have empties : registry.gossipOrder = [] := by
        simp only [RegistryCall.apply, size_insert_direct] at above
        split_ifs at above with held
        · exact before above
        · cases (fits peer key rfl).resolve_left held with
          | inl room => omega
          | inr empty => exact empty
      simp [RegistryCall.apply, KeyRegistryState.insertDirect, empties]
  | insertGossip peer key =>
      simp only [RegistryCall.apply] at above ⊢
      cases insert_gossip_effect registry peer key listed with
      | refreshed known holds order size =>
          rw [order]
          exact before (size ▸ above)
      | appended absent room holds order size =>
          have below := room bound limited
          omega
      | evicted found oldest younger absent bounded queue holds order size =>
          -- Over the bound already, so there was nothing in the queue to evict.
          have empties := before (size ▸ above)
          rw [empties] at queue
          cases queue
      | dropped absent queue same =>
          rw [same]
          exact queue
  | remove peer =>
      have smaller := size_remove_le registry peer
      have empties := before (Nat.lt_of_lt_of_le above smaller)
      simp [RegistryCall.apply, KeyRegistryState.remove, empties]

/-- Over the bound with a gossip-learned entry left is what an unfit direct
insertion leads to at once. -/
theorem unfit_insertion_breaks_bound {peer : PeerId} {key : PublicKey}
    (kept : OverBoundOnlyDirect bound (calls ++ [RegistryCall.insertDirect peer key]))
    (absent : ¬(registryAfter (some bound) calls).Holds peer)
    (full : bound ≤ (registryAfter (some bound) calls).size) :
    (registryAfter (some bound) calls).gossipOrder = [] := by
  rw [over_bound_only_direct_iff_queue, registry_after_snoc] at kept
  have listed := (registry_tracked (some bound) calls).listed
  generalize registryAfter (some bound) calls = registry at *
  simp only [RegistryCall.apply, size_insert_direct, if_neg absent] at kept
  have filtered : registry.gossipOrder.filter (· ≠ peer) = [] := kept (by omega)
  apply List.eq_nil_iff_forall_not_mem.mpr
  intro queued member
  have different : queued ≠ peer := fun same => absent (same ▸ listed queued member)
  have remains : queued ∈ registry.gossipOrder.filter (· ≠ peer) :=
    List.mem_filter.mpr ⟨member, by simpa using different⟩
  rw [filtered] at remains
  cases remains

theorem fit_keeps_bound (fit : DirectInsertionsFit bound calls) :
    OverBoundOnlyDirect bound calls := by
  induction calls using List.reverseRecOn with
  | nil =>
      intro above
      simp [KeyRegistryState.size, KeyRegistryState.empty] at above
  | append_singleton calls call ih =>
      have earlier := direct_insertions_fit_take calls.length fit
      rw [List.take_left] at earlier
      apply over_bound_only_direct_snoc (ih earlier)
      intro peer key same
      have fits := fit calls.length peer key (by simp [same])
      rwa [List.take_left, all_direct_iff] at fits

end SizeBound

/-- The bound holds after every prefix of the calls exactly when every direct
insertion fits. -/
theorem registry_size_bound_iff (bound : Nat) (calls : List RegistryCall) :
    (∀ count, OverBoundOnlyDirect bound (calls.take count)) ↔ DirectInsertionsFit bound calls := by
  constructor
  · intro kept count peer key called
    by_cases held : (registryAfter (some bound) (calls.take count)).Holds peer
    · exact .inl held
    · apply Or.inr
      by_cases room : (registryAfter (some bound) (calls.take count)).size < bound
      · exact .inl room
      · apply Or.inr
        rw [all_direct_iff]
        have next := kept (count + 1)
        rw [List.take_add_one, called] at next
        exact unfit_insertion_breaks_bound next held (by omega)
  · intro fit count
    exact fit_keeps_bound (direct_insertions_fit_take count fit)

/-- Capacity one: peer 1 is announced, then peer 2 shakes hands. -/
def announcedThenHandshake : List RegistryCall :=
  [.insertGossip (samplePeer 1) (samplePeer 1).octets,
    .insertDirect (samplePeer 2) (samplePeer 2).octets]

theorem direct_insertion_exceeds_bound :
    (registryAfter (some 1) announcedThenHandshake).size = 2 ∧
      (registryAfter (some 1) announcedThenHandshake).Holds (samplePeer 1) ∧
      ¬LearnedDirectly (some 1) announcedThenHandshake (samplePeer 1) ∧
      ¬OverBoundOnlyDirect 1 announcedThenHandshake := by
  have size : (registryAfter (some 1) announcedThenHandshake).size = 2 := by decide +kernel
  have held : (registryAfter (some 1) announcedThenHandshake).Holds (samplePeer 1) := by
    decide +kernel
  have queued : samplePeer 1 ∈ (registryAfter (some 1) announcedThenHandshake).gossipOrder := by
    decide +kernel
  have unlearned : ¬LearnedDirectly (some 1) announcedThenHandshake (samplePeer 1) := by
    intro learned
    exact ((learned_directly_iff (registry_tracked _ _) _).mp learned).2 queued
  apply And.intro size
  apply And.intro held
  apply And.intro unlearned
  intro kept
  exact unlearned (kept (by omega) _ held)

end Pathweave
