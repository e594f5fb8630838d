import Mathlib.Algebra.BigOperators.Group.List.Basic
import Mathlib.Data.List.AList

/-!
# Weights of lists and of finite maps

A weight in a commutative monoid, summed over the items of a list or over the
entries of a map. Numbers count, multisets say who holds what. Replacing, removing
or adding one item changes the sum by that item alone; since the monoid need not
have subtraction, the changed item stands on the other side of the equation.
-/

namespace Pathweave.Weights

set_option autoImplicit false

variable {Item Key Value Total : Type*} [AddCommMonoid Total]

section Lists

def weigh (weight : Item → Total) (items : List Item) : Total := (items.map weight).sum

variable (weight : Item → Total) {items : List Item} {index : Nat} {old new : Item}

@[simp] theorem weigh_nil : weigh weight [] = 0 := rfl

@[simp] theorem weigh_cons (item : Item) (items : List Item) :
    weigh weight (item :: items) = weight item + weigh weight items := by
  simp [weigh]

@[simp] theorem weigh_append (left right : List Item) :
    weigh weight (left ++ right) = weigh weight left + weigh weight right := by
  simp [weigh]

theorem weigh_set (present : items[index]? = some old) :
    weigh weight (items.set index new) + weight old = weigh weight items + weight new := by
  induction items generalizing index with
  | nil => simp at present
  | cons head rest ih =>
      cases index with
      | zero =>
          cases present
          simp only [List.set_cons_zero, weigh_cons]
          rw [add_right_comm, add_comm (weight new), add_right_comm]
      | succ index =>
          have tail := @ih index (by simpa using present)
          simp only [List.set_cons_succ, weigh_cons, add_assoc, tail]

theorem weigh_eraseIdx (present : items[index]? = some old) :
    weigh weight (items.eraseIdx index) + weight old = weigh weight items := by
  induction items generalizing index with
  | nil => simp at present
  | cons head rest ih =>
      cases index with
      | zero =>
          cases present
          simp only [List.eraseIdx_cons_zero, weigh_cons, add_comm]
      | succ index =>
          have tail := @ih index (by simpa using present)
          simp only [List.eraseIdx_cons_succ, weigh_cons, add_assoc, tail]

theorem weigh_set_same (present : items[index]? = some old) (same : weight new = weight old) :
    weigh weight (items.set index new) = weigh weight items := by
  induction items generalizing index with
  | nil => simp at present
  | cons head rest ih =>
      cases index with
      | zero =>
          cases present
          simp [same]
      | succ index => simp [@ih index (by simpa using present)]

theorem weigh_set_lost [IsCancelAdd Total] {amount : Total} (present : items[index]? = some old)
    (lost : weight old = weight new + amount) :
    weigh weight (items.set index new) + amount = weigh weight items := by
  have exchanged := @weigh_set _ _ _ weight _ _ _ new present
  rw [lost, ← add_assoc, add_right_comm] at exchanged
  exact add_right_cancel exchanged

end Lists

section Maps

variable (weight : Key → Value → Total)

def weighMap (map : AList (fun _ : Key => Value)) : Total :=
  weigh (fun entry => weight entry.1 entry.2) map.entries

/-- The weight of what a key maps to, if anything. -/
def weighAt (key : Key) : Option Value → Total
  | some value => weight key value
  | none => 0

@[simp] theorem weigh_map_empty : weighMap weight ∅ = 0 := rfl

variable [DecidableEq Key]

theorem weigh_map_erase (map : AList (fun _ : Key => Value)) (key : Key) :
    weighMap weight (map.erase key) + weighAt weight key (map.lookup key) =
      weighMap weight map := by
  by_cases listed : key ∈ map
  · rcases List.exists_of_kerase (AList.mem_keys.mp listed) with
      ⟨value, before, after, notBefore, entries, erased⟩
    have found : map.lookup key = some value := by
      apply AList.mem_lookup_iff.mpr
      simp [entries]
    have kept : (map.erase key).entries = before ++ after := erased
    simp only [weighMap, kept, entries, found, weighAt, weigh_append, weigh_cons]
    rw [add_assoc, add_comm (weigh _ after)]
  · have absent : map.lookup key = none := AList.lookup_eq_none.mpr listed
    have unchanged : map.erase key = map := by
      apply AList.ext
      exact List.kerase_of_notMem_keys listed
    rw [absent, unchanged]
    exact add_zero _

theorem weigh_map_insert (map : AList (fun _ : Key => Value)) (key : Key) (value : Value) :
    weighMap weight (map.insert key value) + weighAt weight key (map.lookup key) =
      weighMap weight map + weight key value := by
  have entries : weighMap weight (map.insert key value) =
      weight key value + weighMap weight (map.erase key) := by
    rw [weighMap, AList.entries_insert, weigh_cons]
    rfl
  rw [entries, add_assoc, weigh_map_erase, add_comm]

theorem weigh_map_insert_gained [IsCancelAdd Total] {map : AList (fun _ : Key => Value)}
    {key : Key} {value : Value} {amount : Total}
    (gained : weight key value = weighAt weight key (map.lookup key) + amount) :
    weighMap weight (map.insert key value) = weighMap weight map + amount := by
  have exchanged := weigh_map_insert weight map key value
  rw [gained, add_comm (weighAt _ _ _) amount, ← add_assoc] at exchanged
  exact add_right_cancel exchanged

end Maps

end Pathweave.Weights
