import Mathlib.Logic.Function.Basic
import Pathweave.Identities

/-!
# Deduplication cache

Two tables of recently seen keys with one lifetime. Each check first drops the
expired entries of its own table, then records the key if it is absent; a
duplicate does not refresh its entry. Instants and durations
are natural numbers of nanoseconds.
-/

namespace Pathweave

set_option autoImplicit false

def seconds (count : Nat) : Nat := count * 1000000000

def dedupTtl : Nat := seconds 60

/-- `Instant::checked_duration_since`. -/
def checkedDurationSince (now earlier : Nat) : Option Nat :=
  if earlier ≤ now then some (now - earlier) else none

section SeenTable

variable {Key : Type} [DecidableEq Key]

/-- The `retain` predicate of both checks. An entry that lies in the future of
the clock reading is kept. -/
def fresh (ttl : Nat) (now inserted : Nat) : Bool :=
  match checkedDurationSince now inserted with
  | some age => decide (age < ttl)
  | none => true

def retainFresh (ttl : Nat) (now : Nat) (seen : Key → Option Nat) :
    Key → Option Nat :=
  fun key => (seen key).filter (fresh ttl now)

def checkAndInsertKey (ttl : Nat) (now : Nat) (key : Key)
    (seen : Key → Option Nat) : Bool × (Key → Option Nat) :=
  if (retainFresh ttl now seen key).isSome then (true, retainFresh ttl now seen)
  else (false, Function.update (retainFresh ttl now seen) key (some now))

omit [DecidableEq Key] in
theorem fresh_iff (ttl : Nat) (now inserted : Nat) :
    fresh ttl now inserted = true ↔ now < inserted ∨ now < inserted + ttl := by
  unfold fresh checkedDurationSince
  split_ifs with past
  · simp only [decide_eq_true_eq]
    omega
  · simp only [true_iff]
    omega

def Unexpired (ttl : Nat) (now : Nat) (seen : Key → Option Nat) : Prop :=
  ∀ key inserted, seen key = some inserted → fresh ttl now inserted = true

omit [DecidableEq Key] in
theorem retain_unexpired {ttl : Nat} {now : Nat} {seen : Key → Option Nat}
    (unexpired : Unexpired ttl now seen) : retainFresh ttl now seen = seen := by
  funext key
  cases entry : seen key with
  | none => simp [retainFresh, entry]
  | some inserted => simp [retainFresh, entry, unexpired key inserted entry]

theorem check_unexpired {ttl : Nat} {now : Nat} {key : Key}
    {seen : Key → Option Nat} (unexpired : Unexpired ttl now seen) :
    checkAndInsertKey ttl now key seen =
      if (seen key).isSome then (true, seen)
      else (false, Function.update seen key (some now)) := by
  rw [checkAndInsertKey, retain_unexpired unexpired]

theorem check_keeps {ttl now inserted : Nat} {key other : Key} {seen : Key → Option Nat}
    (entry : seen other = some inserted) :
    (checkAndInsertKey ttl now key seen).2 other = some inserted ∨ inserted + ttl ≤ now := by
  by_cases kept : fresh ttl now inserted = true
  · have retained : retainFresh ttl now seen other = some inserted := by
      simp [retainFresh, entry, kept]
    refine .inl ?_
    unfold checkAndInsertKey
    split_ifs with listed
    · exact retained
    · refine (Function.update_of_ne ?_ _ _).trans retained
      intro same
      subst same
      simp [retained] at listed
  · rw [fresh_iff] at kept
    omega

theorem check_duplicate {ttl now inserted : Nat} {key : Key} {seen : Key → Option Nat}
    (entry : seen key = some inserted) (recent : now < inserted + ttl) :
    (checkAndInsertKey ttl now key seen).1 = true := by
  have kept : fresh ttl now inserted = true := (fresh_iff ttl now inserted).mpr (.inr recent)
  simp [checkAndInsertKey, retainFresh, entry, kept]

theorem check_records {ttl now : Nat} {key : Key} {seen : Key → Option Nat}
    (first : (checkAndInsertKey ttl now key seen).1 = false) :
    (checkAndInsertKey ttl now key seen).2 key = some now := by
  unfold checkAndInsertKey at first ⊢
  split_ifs at first ⊢
  exact Function.update_self ..

theorem check_first {ttl now : Nat} {key : Key} {seen : Key → Option Nat}
    (expired : ∀ inserted, seen key = some inserted → fresh ttl now inserted = false) :
    (checkAndInsertKey ttl now key seen).1 = false := by
  have dropped : retainFresh ttl now seen key = none := by
    cases entry : seen key with
    | none => simp [retainFresh, entry]
    | some inserted => simp [retainFresh, entry, expired inserted entry]
  simp [checkAndInsertKey, dropped]

theorem check_entry {ttl now inserted : Nat} {key other : Key} {seen : Key → Option Nat}
    (entry : (checkAndInsertKey ttl now key seen).2 other = some inserted) :
    seen other = some inserted ∨
      (inserted = now ∧ other = key ∧ (checkAndInsertKey ttl now key seen).1 = false) := by
  unfold checkAndInsertKey at entry ⊢
  split_ifs at entry ⊢ with listed
  · exact .inl (Option.filter_eq_some_iff.mp entry).1
  · by_cases same : other = key
    · subst same
      simp only [Function.update_self, Option.some.injEq] at entry
      exact .inr ⟨entry.symm, rfl, rfl⟩
    · simp only [Function.update_of_ne same] at entry
      exact .inl (Option.filter_eq_some_iff.mp entry).1

theorem check_found {ttl now : Nat} {key : Key} {seen : Key → Option Nat}
    (found : (checkAndInsertKey ttl now key seen).1 = true) :
    ∃ inserted, seen key = some inserted ∧ fresh ttl now inserted = true := by
  unfold checkAndInsertKey at found
  split_ifs at found with listed
  obtain ⟨inserted, kept⟩ := Option.isSome_iff_exists.mp listed
  exact ⟨inserted, Option.filter_eq_some_iff.mp kept⟩

end SeenTable

structure DeduplicationCache where
  seen : PeerId × UInt64 → Option Nat
  seenRouted : UInt64 → Option Nat
  ttl : Nat

namespace DeduplicationCache

def withTtl (ttl : Nat) : DeduplicationCache where
  seen := fun _ => none
  seenRouted := fun _ => none
  ttl := ttl

def new : DeduplicationCache := withTtl dedupTtl

def checkAndInsert (cache : DeduplicationCache) (now : Nat) (peer : PeerId)
    (messageId : UInt64) : Bool × DeduplicationCache :=
  let (duplicate, seen) := checkAndInsertKey cache.ttl now (peer, messageId) cache.seen
  (duplicate, { cache with seen := seen })

def checkAndInsertRouted (cache : DeduplicationCache) (now : Nat) (messageId : UInt64) :
    Bool × DeduplicationCache :=
  let (duplicate, seenRouted) := checkAndInsertKey cache.ttl now messageId cache.seenRouted
  (duplicate, { cache with seenRouted := seenRouted })

end DeduplicationCache

end Pathweave
