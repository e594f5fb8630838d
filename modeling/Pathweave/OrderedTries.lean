import Mathlib.Data.List.Basic

/-!
# Candidates in order, until one succeeds

A stable sort by a bounded key lists the items of each key in turn, and those of one key
in their old order. Items that are tried in turn are tried up to the first success.
-/

namespace Pathweave.OrderedTries

set_option autoImplicit false

variable {Item : Type*} {items : List Item}

/-! ## Stable sorting by a key -/

section Keys

variable (key : Item → Nat)

def byKey (bound : Nat) (items : List Item) : List Item :=
  (List.range bound).flatMap fun rank => items.filter fun item => key item = rank

variable {key}

theorem by_key_succ (bound : Nat) :
    byKey key (bound + 1) items =
      byKey key bound items ++ items.filter fun item => key item = bound := by
  rw [byKey, List.range_succ, List.flatMap_append, List.flatMap_singleton, byKey]

theorem by_key_filter (bound : Nat) :
    byKey key bound (items.filter fun item => key item < bound) = byKey key bound items := by
  apply List.flatMap_congr
  intro rank listed
  have small := List.mem_range.mp listed
  rw [List.filter_filter]
  apply List.filter_congr
  intro item among
  by_cases same : key item = rank
  · simp [same, small]
  · simp [same]

theorem sorted_split (sorted : items.Pairwise fun left right => key left ≤ key right)
    (bound : Nat) :
    items = (items.filter fun item => key item < bound) ++
      items.filter fun item => bound ≤ key item := by
  induction items with
  | nil => rfl
  | cons first rest ih =>
      obtain ⟨least, later⟩ := List.pairwise_cons.mp sorted
      by_cases small : key first < bound
      · rw [List.filter_cons_of_pos (by simpa using small),
          List.filter_cons_of_neg (by simpa using small), List.cons_append, ← ih later]
      · have large : ∀ item ∈ first :: rest, bound ≤ key item := by
          intro item among
          rcases List.mem_cons.mp among with rfl | behind
          · omega
          · have above := least item behind
            omega
        have none : ((first :: rest).filter fun item => key item < bound) = [] := by
          apply List.filter_eq_nil_iff.mpr
          intro item among
          simpa using large item among
        rw [none, List.nil_append]
        exact (List.filter_eq_self.mpr fun item among => decide_eq_true (large item among)).symm

theorem sorted_by_key {bound : Nat} (below : ∀ item ∈ items, key item < bound)
    (sorted : items.Pairwise fun left right => key left ≤ key right) :
    items = byKey key bound items := by
  induction bound generalizing items with
  | zero =>
      cases items with
      | nil => rfl
      | cons first rest => exact absurd (below first List.mem_cons_self) (Nat.not_lt_zero _)
  | succ bound ih =>
      have last : (items.filter fun item => bound ≤ key item) =
          items.filter fun item => key item = bound := by
        apply List.filter_congr
        intro item among
        have limit := below item among
        rw [decide_eq_decide]
        omega
      have front := @ih (items.filter fun item => key item < bound)
        (fun item among => of_decide_eq_true (List.mem_filter.mp among).2) (sorted.filter _)
      rw [by_key_filter] at front
      rw [by_key_succ, ← front, ← last]
      exact sorted_split sorted bound

theorem key_le_trans (first second third : Item)
    (left : decide (key first ≤ key second) = true)
    (right : decide (key second ≤ key third) = true) :
    decide (key first ≤ key third) = true := by
  rw [decide_eq_true_eq] at left right ⊢
  exact Nat.le_trans left right

theorem key_le_total (first second : Item) :
    (decide (key first ≤ key second) || decide (key second ≤ key first)) = true := by
  rw [Bool.or_eq_true, decide_eq_true_eq, decide_eq_true_eq]
  exact Nat.le_total _ _

theorem merge_sort_filter (rank : Nat) :
    ((items.mergeSort fun left right => key left ≤ key right).filter fun item => key item = rank) =
      items.filter fun item => key item = rank := by
  have sorted : (items.filter fun item => key item = rank).Pairwise fun left right =>
      decide (key left ≤ key right) = true := by
    apply List.pairwise_of_forall_mem_list
    intro left leftMember right rightMember
    simp only [List.mem_filter, decide_eq_true_eq] at leftMember rightMember ⊢
    omega
  have kept := List.sublist_mergeSort key_le_trans key_le_total sorted List.filter_sublist
  have among := kept.filter fun item => decide (key item = rank)
  rw [List.filter_filter] at among
  simp only [Bool.and_self] at among
  refine (among.eq_of_length ?_).symm
  exact ((List.mergeSort_perm items _).filter _).length_eq.symm

theorem merge_sort_by_key {bound : Nat} (below : ∀ item ∈ items, key item < bound) :
    (items.mergeSort fun left right => key left ≤ key right) = byKey key bound items := by
  have sorted : (items.mergeSort fun left right => key left ≤ key right).Pairwise
      fun left right => key left ≤ key right :=
    (List.pairwise_mergeSort key_le_trans key_le_total items).imp of_decide_eq_true
  rw [sorted_by_key (fun item among => below item (List.mem_mergeSort.mp among)) sorted]
  apply List.flatMap_congr
  intro rank listed
  exact merge_sort_filter rank

end Keys

/-! ## Trying in turn -/

/-- The items that are tried, the first of them after a number of earlier tries. -/
def triedFrom (succeeds : Nat → Bool) : Nat → List Item → List Item
  | _, [] => []
  | count, item :: rest =>
      if succeeds count then [item] else item :: triedFrom succeeds (count + 1) rest

variable {succeeds : Nat → Bool}

theorem tried_failed (count : Nat) (rest : List Item)
    (failed : ∀ index < items.length, succeeds (count + index) = false) :
    triedFrom succeeds count (items ++ rest) =
      items ++ triedFrom succeeds (count + items.length) rest := by
  induction items generalizing count with
  | nil => rfl
  | cons item later ih =>
      have first := failed 0 (Nat.succ_pos _)
      rw [Nat.add_zero] at first
      rw [List.cons_append, triedFrom, first, if_neg Bool.false_ne_true, ih, List.cons_append,
        List.length_cons, Nat.add_right_comm, Nat.add_assoc]
      intro index inside
      rw [Nat.add_right_comm, Nat.add_assoc]
      exact failed (index + 1) (Nat.succ_lt_succ inside)

theorem tried_succeeded (count : Nat) {item : Item} (rest : List Item)
    (failed : ∀ index < items.length, succeeds (count + index) = false)
    (success : succeeds (count + items.length) = true) :
    triedFrom succeeds count (items ++ item :: rest) = items ++ [item] := by
  rw [tried_failed count _ failed, triedFrom, if_pos success]

end Pathweave.OrderedTries
