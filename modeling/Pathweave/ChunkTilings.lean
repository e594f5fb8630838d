import Mathlib.Algebra.Ring.Nat
import Mathlib.Data.List.Pairwise
import Mathlib.Order.Interval.Finset.Nat

/-!
# Chunks at offsets

Pieces of a message, each with the position of its first item. In order of their offsets
they may leave gaps and may overlap; they tile an interval if each nonempty piece starts
where the one before it ends. If the pieces cover an interval and have no more items than
it has positions, they tile it.
-/

namespace Pathweave.ChunkTilings

set_option autoImplicit false

variable {Item : Type*}

def Contains (chunk : Nat × List Item) (position : Nat) : Prop :=
  chunk.1 ≤ position ∧ position < chunk.1 + chunk.2.length

def totalSize (chunks : List (Nat × List Item)) : Nat :=
  (chunks.map fun chunk => chunk.2.length).sum

def joined (chunks : List (Nat × List Item)) : List Item := (chunks.map Prod.snd).flatten

def Ascending (chunks : List (Nat × List Item)) : Prop :=
  chunks.Pairwise fun earlier later => earlier.1 < later.1

/-- Empty chunks may stand anywhere. -/
def TilesFrom : Nat → Nat → List (Nat × List Item) → Prop
  | start, stop, [] => start = stop
  | start, stop, chunk :: rest =>
      if chunk.2.isEmpty then TilesFrom start stop rest
      else chunk.1 = start ∧ TilesFrom (start + chunk.2.length) stop rest

instance decidableTilesFrom : (start stop : Nat) → (chunks : List (Nat × List Item)) →
    Decidable (TilesFrom start stop chunks)
  | start, stop, [] => inferInstanceAs (Decidable (start = stop))
  | start, stop, chunk :: rest =>
      have := decidableTilesFrom start stop rest
      have := decidableTilesFrom (start + chunk.2.length) stop rest
      inferInstanceAs (Decidable (if chunk.2.isEmpty then TilesFrom start stop rest
        else chunk.1 = start ∧ TilesFrom (start + chunk.2.length) stop rest))

def Covered (start stop : Nat) (chunks : List (Nat × List Item)) : Prop :=
  ∀ position, start ≤ position → position < stop → ∃ chunk ∈ chunks, Contains chunk position

variable {chunks rest : List (Nat × List Item)} {chunk : Nat × List Item} {start stop : Nat}

theorem joined_length (chunks : List (Nat × List Item)) :
    (joined chunks).length = totalSize chunks := by
  rw [joined, totalSize, List.length_flatten, List.map_map]
  rfl

@[simp] theorem total_size_cons (chunk : Nat × List Item) (rest : List (Nat × List Item)) :
    totalSize (chunk :: rest) = chunk.2.length + totalSize rest := by
  simp [totalSize]

@[simp] theorem joined_cons (chunk : Nat × List Item) (rest : List (Nat × List Item)) :
    joined (chunk :: rest) = chunk.2 ++ joined rest := by
  simp [joined]

theorem total_size_filter_le (kept : Nat × List Item → Bool) (chunks : List (Nat × List Item)) :
    totalSize (chunks.filter kept) ≤ totalSize chunks := by
  induction chunks with
  | nil => exact Nat.le_refl _
  | cons chunk rest ih =>
      rw [total_size_cons, List.filter_cons]
      split_ifs
      · rw [total_size_cons]
        omega
      · omega

theorem total_size_filter_lt {kept : Nat × List Item → Bool} (listed : chunk ∈ chunks)
    (some : 0 < chunk.2.length) (missing : kept chunk = false) :
    totalSize (chunks.filter kept) < totalSize chunks := by
  induction chunks with
  | nil => cases listed
  | cons first rest ih =>
      have bound := total_size_filter_le kept rest
      rw [total_size_cons, List.filter_cons]
      rcases List.mem_cons.mp listed with rfl | among
      · rw [missing, if_neg Bool.false_ne_true]
        omega
      · have smaller := ih among
        split_ifs
        · rw [total_size_cons]
          omega
        · omega

/-! ## Tilings cover -/

theorem tiles_size (tiles : TilesFrom start stop chunks) : start + totalSize chunks = stop := by
  induction chunks generalizing start with
  | nil => exact tiles
  | cons chunk rest ih =>
      simp only [TilesFrom, List.isEmpty_iff] at tiles
      split_ifs at tiles with empty
      · have later := ih tiles
        rw [total_size_cons, empty, List.length_nil, Nat.zero_add]
        exact later
      · have later := ih tiles.2
        rw [total_size_cons]
        omega

/-- Each item of the joined chunks stands in a chunk at its own position. -/
theorem tiles_item (tiles : TilesFrom start stop chunks) {index : Nat} {item : Item}
    (found : (joined chunks)[index]? = some item) :
    ∃ chunk ∈ chunks, Contains chunk (start + index) ∧
      chunk.2[start + index - chunk.1]? = some item := by
  induction chunks generalizing start index with
  | nil => simp [joined] at found
  | cons chunk rest ih =>
      simp only [TilesFrom, List.isEmpty_iff] at tiles
      rw [joined_cons] at found
      split_ifs at tiles with empty
      · rw [empty, List.nil_append] at found
        obtain ⟨other, listed, holds⟩ := ih tiles found
        exact ⟨other, List.mem_cons_of_mem _ listed, holds⟩
      · obtain ⟨here, later⟩ := tiles
        by_cases inside : index < chunk.2.length
        · rw [List.getElem?_append_left inside] at found
          refine ⟨chunk, List.mem_cons_self, ⟨by omega, by omega⟩, ?_⟩
          rw [here, Nat.add_sub_cancel_left]
          exact found
        · rw [List.getElem?_append_right (Nat.le_of_not_lt inside)] at found
          obtain ⟨other, listed, holds⟩ := ih later found
          have shift : start + chunk.2.length + (index - chunk.2.length) = start + index := by
            omega
          rw [shift] at holds
          exact ⟨other, List.mem_cons_of_mem _ listed, holds⟩

theorem tiles_cover (tiles : TilesFrom start stop chunks) : Covered start stop chunks := by
  intro position early late
  have size := tiles_size tiles
  have inside : position - start < (joined chunks).length := by
    rw [joined_length]
    omega
  obtain ⟨chunk, listed, contains, -⟩ := tiles_item tiles (List.getElem?_eq_getElem inside)
  rw [Nat.add_sub_cancel' early] at contains
  exact ⟨chunk, listed, contains⟩

/-! ## Small covers tile -/

/-- Chunks hold at least as many items as there are positions they cover. -/
theorem covered_card_le (positions : Finset Nat)
    (covered : ∀ position ∈ positions, ∃ chunk ∈ chunks, Contains chunk position) :
    positions.card ≤ totalSize chunks := by
  induction chunks generalizing positions with
  | nil =>
      have none : positions = ∅ := by
        apply Finset.eq_empty_of_forall_notMem
        intro position listed
        obtain ⟨chunk, impossible, -⟩ := covered position listed
        cases impossible
      rw [none]
      exact Nat.zero_le _
  | cons chunk rest ih =>
      have others : (positions \ Finset.Ico chunk.1 (chunk.1 + chunk.2.length)).card ≤
          totalSize rest := by
        apply ih
        intro position listed
        obtain ⟨member, outside⟩ := Finset.mem_sdiff.mp listed
        obtain ⟨other, among, contains⟩ := covered position member
        rcases List.mem_cons.mp among with rfl | later
        · exact absurd (Finset.mem_Ico.mpr contains) outside
        · exact ⟨other, later, contains⟩
      have split := Finset.card_le_card_sdiff_add_card (s := positions)
        (t := Finset.Ico chunk.1 (chunk.1 + chunk.2.length))
      rw [Nat.card_Ico, Nat.add_sub_cancel_left] at split
      rw [total_size_cons]
      omega

theorem covered_size_le (covered : Covered start stop chunks) : stop - start ≤ totalSize chunks := by
  rw [← Nat.card_Ico]
  apply covered_card_le
  intro position listed
  obtain ⟨early, late⟩ := Finset.mem_Ico.mp listed
  exact covered position early late

theorem covered_tail (covered : Covered start stop (chunk :: rest)) {later : Nat}
    (early : start ≤ later) (behind : chunk.1 + chunk.2.length ≤ later ∨ chunk.2 = []) :
    Covered later stop rest := by
  intro position above below
  obtain ⟨other, listed, contains⟩ := covered position (early.trans above) below
  rcases List.mem_cons.mp listed with rfl | among
  · obtain ⟨low, high⟩ := contains
    rcases behind with passed | empty
    · omega
    · rw [empty, List.length_nil] at high
      omega
  · exact ⟨other, among, contains⟩

theorem tiles_of_covered (ascending : Ascending chunks) (ordered : start ≤ stop)
    (covered : Covered start stop chunks) (size : totalSize chunks = stop - start) :
    TilesFrom start stop chunks := by
  induction chunks generalizing start with
  | nil =>
      have none : totalSize ([] : List (Nat × List Item)) = 0 := rfl
      show start = stop
      omega
  | cons chunk rest ih =>
      obtain ⟨first, later⟩ := List.pairwise_cons.mp ascending
      rw [total_size_cons] at size
      simp only [TilesFrom, List.isEmpty_iff]
      split_ifs with empty
      · rw [empty, List.length_nil, Nat.zero_add] at size
        exact ih later ordered (covered_tail covered (Nat.le_refl _) (.inr empty)) size
      · have some : 0 < chunk.2.length := List.length_pos_iff.mpr empty
        have here : chunk.1 = start := by
          -- A first chunk that starts too early wastes items, a late one leaves a gap.
          by_contra apart
          rcases Nat.lt_or_gt_of_ne apart with early | late
          · have tail := covered_size_le
              (covered_tail covered (Nat.le_max_left start (chunk.1 + chunk.2.length))
                (.inl (Nat.le_max_right ..)))
            omega
          · obtain ⟨other, listed, low, high⟩ := covered start (Nat.le_refl _) (by omega)
            rcases List.mem_cons.mp listed with rfl | among
            · omega
            · have after := first other among
              omega
        refine ⟨here, ih later (by omega) ?_ (by omega)⟩
        exact covered_tail covered (Nat.le_add_right ..) (.inl (by omega))

/-- In ascending order, chunks tile an interval from the start exactly if they cover it with
no item to spare. -/
theorem tiles_iff (ascending : Ascending chunks) :
    TilesFrom 0 stop chunks ↔ Covered 0 stop chunks ∧ (joined chunks).length = stop := by
  rw [joined_length]
  constructor
  · intro tiles
    have size := tiles_size tiles
    exact ⟨tiles_cover tiles, by omega⟩
  · intro given
    exact tiles_of_covered ascending (Nat.zero_le _) given.1 given.2

end Pathweave.ChunkTilings
