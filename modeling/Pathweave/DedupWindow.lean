import Mathlib.Data.List.Induction
import Pathweave.DeduplicationCache
import Pathweave.SampleMesh

/-!
# Deduplication window

Whole histories of the deduplication cache. Each call reads the clock, answers
from one of the two tables and may record its key there. The log of a history
says for every key when it was last taken as new; a table entry is that reading
until it is dropped, and it is dropped only when the window has closed. So the
answers are a function of the log, and only of its calls for the same key.
-/

namespace Pathweave

set_option autoImplicit false

inductive DedupCall where
  | direct (now : Nat) (peer : PeerId) (messageId : UInt64)
  | routed (now : Nat) (messageId : UInt64)

/-- A key together with the table it belongs to. -/
abbrev DedupKey := (PeerId × UInt64) ⊕ UInt64

namespace DedupCall

def time : DedupCall → Nat
  | direct now _ _ => now
  | routed now _ => now

def key : DedupCall → DedupKey
  | direct _ peer messageId => .inl (peer, messageId)
  | routed _ messageId => .inr messageId

def check (cache : DeduplicationCache) : DedupCall → Bool × DeduplicationCache
  | direct now peer messageId => cache.checkAndInsert now peer messageId
  | routed now messageId => cache.checkAndInsertRouted now messageId

end DedupCall

def DeduplicationCache.entry (cache : DeduplicationCache) : DedupKey → Option Nat :=
  Sum.elim cache.seen cache.seenRouted

abbrev DedupLog := List (DedupCall × Bool)

structure DedupHistory where
  cache : DeduplicationCache
  log : DedupLog

def dedupStep (history : DedupHistory) (call : DedupCall) : DedupHistory where
  cache := (call.check history.cache).2
  log := (call, (call.check history.cache).1) :: history.log

def dedupHistory (ttl : Nat) (calls : List DedupCall) : DedupHistory :=
  calls.foldl dedupStep ⟨.withTtl ttl, []⟩

def lastTaken (log : DedupLog) (key : DedupKey) : Option Nat :=
  (log.find? fun entry => decide (entry.1.key = key) && !entry.2).map fun entry => entry.1.time

def ClockOrdered (calls : List DedupCall) : Prop :=
  calls.Pairwise fun earlier later => earlier.time ≤ later.time

instance (calls : List DedupCall) : Decidable (ClockOrdered calls) :=
  inferInstanceAs (Decidable (calls.Pairwise fun earlier later => earlier.time ≤ later.time))

theorem last_taken_cons (call : DedupCall) (answer : Bool) (log : DedupLog) (key : DedupKey) :
    lastTaken ((call, answer) :: log) key =
      if call.key = key ∧ answer = false then some call.time else lastTaken log key := by
  unfold lastTaken
  by_cases same : call.key = key <;> cases answer <;> simp [same]

/-! ### One table -/

section SeenTable

variable {Key : Type} [DecidableEq Key] {ttl clock now : Nat} {key : Key}
  {seen taken : Key → Option Nat}

/-- Every entry is the reading at which its key was last taken, and a reading
without its entry is out of its window. -/
structure Windowed (ttl clock : Nat) (seen taken : Key → Option Nat) : Prop where
  recorded : ∀ key inserted, seen key = some inserted → taken key = some inserted
  kept : ∀ key inserted, taken key = some inserted →
    seen key = some inserted ∨ inserted + ttl ≤ clock

omit [DecidableEq Key] in
theorem fresh_within (ttl now inserted : Nat) :
    fresh ttl now inserted = true ↔ now < inserted + ttl := by
  rw [fresh_iff]
  omega

omit [DecidableEq Key] in
theorem windowed_later (window : Windowed ttl clock seen taken) (later : clock ≤ now) :
    Windowed ttl now seen taken where
  recorded := window.recorded
  kept := by
    intro key inserted was
    rcases window.kept key inserted was with entry | closed
    · exact .inl entry
    · exact .inr (closed.trans later)

theorem check_answer (window : Windowed ttl clock seen taken) (later : clock ≤ now) :
    (checkAndInsertKey ttl now key seen).1 = true ↔
      ∃ inserted, taken key = some inserted ∧ now < inserted + ttl := by
  constructor
  · intro found
    obtain ⟨inserted, entry, live⟩ := check_found found
    exact ⟨inserted, window.recorded key inserted entry, (fresh_within ttl now inserted).mp live⟩
  · rintro ⟨inserted, was, recent⟩
    rcases window.kept key inserted was with entry | closed
    · exact check_duplicate entry recent
    · omega

/-- A duplicate leaves the reading of its key as it is. -/
def takenAfter (taken : Key → Option Nat) (key : Key) (now : Nat) (answer : Bool) :
    Key → Option Nat :=
  if answer then taken else Function.update taken key (some now)

theorem check_windowed (window : Windowed ttl clock seen taken) (later : clock ≤ now) :
    Windowed ttl now (checkAndInsertKey ttl now key seen).2
      (takenAfter taken key now (checkAndInsertKey ttl now key seen).1) := by
  have retained : ∀ other inserted, taken other = some inserted →
      (checkAndInsertKey ttl now key seen).2 other = some inserted ∨ inserted + ttl ≤ now := by
    intro other inserted was
    rcases (windowed_later window later).kept other inserted was with entry | closed
    · exact check_keeps entry
    · exact .inr closed
  constructor
  · intro other inserted entry
    rcases check_entry entry with old | ⟨rfl, rfl, new⟩
    · have was := window.recorded other inserted old
      cases answer : (checkAndInsertKey ttl now key seen).1 with
      | true => exact was
      | false =>
          by_cases same : other = key
          · subst same
            rw [check_records answer] at entry
            simpa [takenAfter] using entry
          · simpa [takenAfter, Function.update_of_ne same] using was
    · simp [takenAfter, new]
  · intro other inserted was
    cases answer : (checkAndInsertKey ttl now key seen).1 with
    | true =>
        rw [answer] at was
        exact retained other inserted was
    | false =>
        rw [answer] at was
        by_cases same : other = key
        · subst same
          simp only [takenAfter, Bool.false_eq_true, if_false, Function.update_self,
            Option.some.injEq] at was
          subst was
          exact .inl (check_records answer)
        · simp only [takenAfter, Bool.false_eq_true, if_false, Function.update_of_ne same] at was
          exact retained other inserted was

/-- With a positive lifetime no entry of the table is too old after a check,
the one the check itself made included. -/
theorem check_leaves_live {other : Key} {inserted : Nat} (positive : 0 < ttl)
    (entry : (checkAndInsertKey ttl now key seen).2 other = some inserted) :
    now < inserted + ttl := by
  unfold checkAndInsertKey at entry
  split_ifs at entry with listed
  · exact (fresh_within ttl now inserted).mp (Option.filter_eq_some_iff.mp entry).2
  · by_cases same : other = key
    · subst same
      simp only [Function.update_self, Option.some.injEq] at entry
      omega
    · simp only [Function.update_of_ne same] at entry
      exact (fresh_within ttl now inserted).mp (Option.filter_eq_some_iff.mp entry).2

end SeenTable

/-! ### Both tables along a history -/

structure CacheWindowed (clock : Nat) (history : DedupHistory) : Prop where
  direct : Windowed history.cache.ttl clock history.cache.seen
    fun key => lastTaken history.log (.inl key)
  routed : Windowed history.cache.ttl clock history.cache.seenRouted
    fun key => lastTaken history.log (.inr key)

theorem taken_after_call {Key : Type} [DecidableEq Key] {table : Key → DedupKey}
    (apart : Function.Injective table) (log : DedupLog) {call : DedupCall} {key : Key}
    (own : call.key = table key) (answer : Bool) :
    (fun other => lastTaken ((call, answer) :: log) (table other)) =
      takenAfter (fun other => lastTaken log (table other)) key call.time answer := by
  funext other
  simp only [last_taken_cons, own, apart.eq_iff]
  cases answer with
  | true => simp [takenAfter]
  | false =>
      by_cases same : other = key
      · simp [takenAfter, same]
      · simp [takenAfter, same, Ne.symm same]

theorem cache_windowed_step {clock : Nat} {history : DedupHistory} {call : DedupCall}
    (windowed : CacheWindowed clock history) (later : clock ≤ call.time) :
    CacheWindowed call.time (dedupStep history call) := by
  cases call with
  | direct now peer messageId =>
      constructor
      · rw [dedupStep, taken_after_call Sum.inl_injective history.log rfl]
        exact check_windowed windowed.direct later
      · simp only [dedupStep, last_taken_cons, DedupCall.key, reduceCtorEq, false_and, if_false]
        exact windowed_later windowed.routed later
  | routed now messageId =>
      constructor
      · simp only [dedupStep, last_taken_cons, DedupCall.key, reduceCtorEq, false_and, if_false]
        exact windowed_later windowed.direct later
      · rw [dedupStep, taken_after_call Sum.inr_injective history.log rfl]
        exact check_windowed windowed.routed later

theorem check_ttl (cache : DeduplicationCache) (call : DedupCall) :
    (call.check cache).2.ttl = cache.ttl := by
  cases call <;> rfl

theorem dedup_history_snoc (ttl : Nat) (calls : List DedupCall) (call : DedupCall) :
    dedupHistory ttl (calls ++ [call]) = dedupStep (dedupHistory ttl calls) call := by
  simp [dedupHistory]

@[simp] theorem dedup_history_ttl (ttl : Nat) (calls : List DedupCall) :
    (dedupHistory ttl calls).cache.ttl = ttl := by
  induction calls using List.reverseRecOn with
  | nil => rfl
  | append_singleton calls call induction =>
      rw [dedup_history_snoc]
      exact (check_ttl _ _).trans induction

theorem ordered_before {calls : List DedupCall} {call : DedupCall}
    (ordered : ClockOrdered (calls ++ [call])) :
    ClockOrdered calls ∧ ∀ earlier ∈ calls, earlier.time ≤ call.time := by
  obtain ⟨before, _, last⟩ := List.pairwise_append.mp ordered
  exact ⟨before, fun earlier listed => last earlier listed call (by simp)⟩

/-- At any reading that the calls have not passed, the tables match the log. -/
theorem history_windowed {ttl clock : Nat} {calls : List DedupCall} (ordered : ClockOrdered calls)
    (later : ∀ call ∈ calls, call.time ≤ clock) :
    CacheWindowed clock (dedupHistory ttl calls) := by
  induction calls using List.reverseRecOn generalizing clock with
  | nil => exact ⟨⟨nofun, nofun⟩, ⟨nofun, nofun⟩⟩
  | append_singleton calls call induction =>
      obtain ⟨before, last⟩ := ordered_before ordered
      have stepped := cache_windowed_step (induction before last) le_rfl
      have reached : call.time ≤ clock := later call (by simp)
      rw [dedup_history_snoc]
      exact ⟨windowed_later stepped.direct reached, windowed_later stepped.routed reached⟩

def WindowOpen (ttl : Nat) (log : DedupLog) (key : DedupKey) (now : Nat) : Prop :=
  ∃ taken, lastTaken log key = some taken ∧ now < taken + ttl

theorem check_iff_window {clock : Nat} {history : DedupHistory} {call : DedupCall}
    (windowed : CacheWindowed clock history) (later : clock ≤ call.time) :
    (call.check history.cache).1 = true ↔
      WindowOpen history.cache.ttl history.log call.key call.time := by
  cases call with
  | direct now peer messageId => exact check_answer windowed.direct later
  | routed now messageId => exact check_answer windowed.routed later

theorem history_answer {ttl : Nat} {calls : List DedupCall} {call : DedupCall}
    (ordered : ClockOrdered (calls ++ [call])) :
    (call.check (dedupHistory ttl calls).cache).1 = true ↔
      WindowOpen ttl (dedupHistory ttl calls).log call.key call.time := by
  obtain ⟨before, last⟩ := ordered_before ordered
  have windowed : CacheWindowed call.time (dedupHistory ttl calls) := history_windowed before last
  simpa using check_iff_window windowed le_rfl

/-! ### Other keys have no influence -/

def sameKeyCalls (key : DedupKey) (calls : List DedupCall) : List DedupCall :=
  calls.filter fun call => decide (call.key = key)

theorem same_key_ordered {key : DedupKey} {calls : List DedupCall} {call : DedupCall}
    (ordered : ClockOrdered (calls ++ [call])) :
    ClockOrdered (sameKeyCalls key calls ++ [call]) :=
  ordered.sublist (List.filter_sublist.append (List.Sublist.refl _))

theorem answers_equal {ttl : Nat} {calls others : List DedupCall} {call : DedupCall}
    (ordered : ClockOrdered (calls ++ [call])) (otherOrdered : ClockOrdered (others ++ [call]))
    (same : lastTaken (dedupHistory ttl others).log call.key =
      lastTaken (dedupHistory ttl calls).log call.key) :
    (call.check (dedupHistory ttl others).cache).1 =
      (call.check (dedupHistory ttl calls).cache).1 := by
  rw [Bool.eq_iff_iff, history_answer ordered, history_answer otherOrdered, WindowOpen, WindowOpen,
    same]

/-- When a key was last taken is decided by the calls for that key alone. -/
theorem last_taken_same_key {ttl : Nat} {calls : List DedupCall} (key : DedupKey)
    (ordered : ClockOrdered calls) :
    lastTaken (dedupHistory ttl (sameKeyCalls key calls)).log key =
      lastTaken (dedupHistory ttl calls).log key := by
  induction calls using List.reverseRecOn with
  | nil => rfl
  | append_singleton calls call induction =>
      have prior := induction (ordered_before ordered).1
      rw [dedup_history_snoc]
      by_cases same : call.key = key
      · subst same
        have split : sameKeyCalls call.key (calls ++ [call]) =
            sameKeyCalls call.key calls ++ [call] := by simp [sameKeyCalls]
        have agree := answers_equal ordered (same_key_ordered ordered) prior
        rw [split, dedup_history_snoc]
        simp only [dedupStep, last_taken_cons, agree, prior]
      · have split : sameKeyCalls key (calls ++ [call]) = sameKeyCalls key calls := by
          simp [sameKeyCalls, same]
        rw [split]
        simp only [dedupStep, last_taken_cons, same, false_and, if_false, prior]

theorem check_leaves_live_entries {cache : DeduplicationCache} {call : DedupCall} {key : DedupKey}
    {inserted : Nat} (positive : 0 < cache.ttl) (table : key.isLeft = call.key.isLeft)
    (entry : (call.check cache).2.entry key = some inserted) :
    call.time < inserted + cache.ttl := by
  cases call with
  | direct now peer messageId =>
      cases key with
      | inl key => exact check_leaves_live positive entry
      | inr key => cases table
  | routed now messageId =>
      cases key with
      | inl key => cases table
      | inr key => exact check_leaves_live positive entry

/-- The deduplication window. A lifetime of zero is left out of the last part:
the entry that a check makes then has reached it at once. -/
theorem dedup_window (ttl : Nat) (calls : List DedupCall) (call : DedupCall)
    (ordered : ClockOrdered (calls ++ [call])) :
    ((call.check (dedupHistory ttl calls).cache).1 = true ↔
      ∃ taken, lastTaken (dedupHistory ttl calls).log call.key = some taken ∧
        call.time < taken + ttl) ∧
    (call.check (dedupHistory ttl (sameKeyCalls call.key calls)).cache).1 =
      (call.check (dedupHistory ttl calls).cache).1 ∧
    (0 < ttl → ∀ key inserted, key.isLeft = call.key.isLeft →
      (call.check (dedupHistory ttl calls).cache).2.entry key = some inserted →
      call.time < inserted + ttl) := by
  refine ⟨history_answer ordered, ?_, ?_⟩
  · exact answers_equal ordered (same_key_ordered ordered)
      (last_taken_same_key call.key (ordered_before ordered).1)
  · intro positive key inserted table entry
    have live := check_leaves_live_entries (by simpa using positive) table entry
    simpa using live

/-- The second call for the key, a duplicate, does not prolong the window that
the first one opened; a routed call with the same id is no duplicate. -/
def repeatedCalls : List DedupCall :=
  [.direct 0 (samplePeer 1) 7, .routed (seconds 1) 7, .direct (seconds 59) (samplePeer 1) 7]

theorem dedup_window_repeated :
    (dedupHistory dedupTtl repeatedCalls).log.map (fun entry => entry.2) = [true, false, false] ∧
    ((DedupCall.direct (seconds 60) (samplePeer 1) 7).check
      (dedupHistory dedupTtl repeatedCalls).cache).1 = false := by
  refine ⟨by decide +kernel, ?_⟩
  have window := (dedup_window dedupTtl repeatedCalls (.direct (seconds 60) (samplePeer 1) 7)
    (by decide)).1
  have taken : lastTaken (dedupHistory dedupTtl repeatedCalls).log (.inl (samplePeer 1, 7)) =
      some 0 := by decide +kernel
  rw [← Bool.not_eq_true, window]
  rintro ⟨reading, last, recent⟩
  rw [show (DedupCall.direct (seconds 60) (samplePeer 1) 7).key = .inl (samplePeer 1, 7) from rfl,
    taken] at last
  cases last
  exact absurd recent (by decide)

end Pathweave
