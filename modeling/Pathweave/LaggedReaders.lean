import Pathweave.GuardedRuns

/-!
# A reader of a bounded broadcast channel

Events are numbered in the order in which they are sent, and the channel keeps the
last ones only. A reader that has fallen behind is told so and goes on with the
oldest event kept; what was overwritten before it was read is lost to it. Each event
read may call for some work. The last theorem says exactly when a system with such a
reader loses no event that calls for work.
-/

namespace Pathweave.LaggedReaders

open GuardedRuns

set_option autoImplicit false

/-- The events sent since the reader subscribed, the number of the one it reads next,
and the work it has begun with the number of the event that called for it. -/
structure Reader (Event Work : Type*) where
  sent : List Event
  cursor : Nat
  begun : List (Nat × Work)

variable {Event Work : Type*}

namespace Reader

variable (reader : Reader Event Work) (capacity : Nat) (reaction : Event → Option Work)

def subscribed : Reader Event Work where
  sent := []
  cursor := 0
  begun := []

def send (event : Event) : Reader Event Work := { reader with sent := reader.sent ++ [event] }

/-- The answer to a reader that lags: the next event is the oldest one kept. -/
def skip : Reader Event Work := { reader with cursor := reader.sent.length - capacity }

def take (event : Event) : Reader Event Work :=
  { reader with
    cursor := reader.cursor + 1
    begun := reader.begun ++ ((reaction event).map fun work => (reader.cursor, work)).toList }

def Unread (index : Nat) : Prop :=
  reader.cursor ≤ index ∧ reader.sent.length ≤ index + capacity

def overwritten : Option Event :=
  if reader.cursor + capacity ≤ reader.sent.length then
    reader.sent[reader.sent.length - capacity]?
  else none

/-- Work called for has begun, or the event is still to be read. -/
def Watched : Prop :=
  ∀ index event work, reader.sent[index]? = some event → reaction event = some work →
    (index, work) ∈ reader.begun ∨ reader.Unread capacity index

structure Sound : Prop where
  cursor : reader.cursor ≤ reader.sent.length
  begun : ∀ entry ∈ reader.begun, entry.1 < reader.cursor

end Reader

inductive Effect (capacity : Nat) (reaction : Event → Option Work) (reader : Reader Event Work) :
    Reader Event Work → Prop where
  | unchanged : Effect capacity reaction reader reader
  | sent (event : Event) : Effect capacity reaction reader (reader.send event)
  | skipped (behind : reader.cursor + capacity < reader.sent.length) :
      Effect capacity reaction reader (reader.skip capacity)
  | took {event : Event} (kept : reader.sent.length ≤ reader.cursor + capacity)
      (present : reader.sent[reader.cursor]? = some event) :
      Effect capacity reaction reader (reader.take reaction event)

variable {capacity : Nat} {reaction : Event → Option Work} {reader after : Reader Event Work}

theorem mem_begun_take {event : Event} {entry : Nat × Work} :
    entry ∈ (reader.take reaction event).begun ↔
      entry ∈ reader.begun ∨ (entry.1 = reader.cursor ∧ reaction event = some entry.2) := by
  unfold Reader.take
  cases reaction event with
  | none => simp
  | some work =>
      simp only [Option.map_some, Option.toList_some, List.mem_append, List.mem_singleton,
        Prod.ext_iff, Option.some.injEq]
      exact Iff.or Iff.rfl (and_congr_right fun _ => eq_comm)

theorem sound_subscribed : (Reader.subscribed : Reader Event Work).Sound where
  cursor := Nat.le_refl 0
  begun := by
    intro entry listed
    cases listed

theorem sound_step (sound : reader.Sound) (effect : Effect capacity reaction reader after) :
    after.Sound := by
  cases effect with
  | unchanged => exact sound
  | sent event =>
      constructor
      · simp only [Reader.send, List.length_append]
        exact Nat.le_add_right_of_le sound.cursor
      · exact sound.begun
  | skipped behind =>
      constructor
      · exact Nat.sub_le ..
      · intro entry listed
        have before := sound.begun entry listed
        simp only [Reader.skip]
        omega
  | took kept present =>
      constructor
      · exact (List.getElem?_eq_some_iff.mp present).1
      · intro entry listed
        cases mem_begun_take.mp listed with
        | inl old => exact Nat.lt_succ_of_lt (sound.begun entry old)
        | inr new => exact Nat.lt_succ_of_le (Nat.le_of_eq new.1)

theorem watched_before (effect : Effect capacity reaction reader after)
    (watched : after.Watched capacity reaction) : reader.Watched capacity reaction := by
  intro index event work present called
  have inside : index < reader.sent.length := (List.getElem?_eq_some_iff.mp present).1
  cases effect with
  | unchanged => exact watched index event work present called
  | sent new =>
      have later : (reader.send new).sent[index]? = some event := by
        rw [Reader.send, List.getElem?_append_left inside, present]
      cases watched index event work later called with
      | inl begun => exact .inl begun
      | inr unread =>
          simp only [Reader.Unread, Reader.send, List.length_append] at unread
          exact .inr ⟨unread.1, Nat.le_of_add_right_le unread.2⟩
  | skipped behind =>
      cases watched index event work present called with
      | inl begun => exact .inl begun
      | inr unread =>
          simp only [Reader.Unread, Reader.skip] at unread
          exact .inr ⟨by omega, unread.2⟩
  | took kept next =>
      cases watched index event work present called with
      | inl begun =>
          cases mem_begun_take.mp begun with
          | inl old => exact .inl old
          | inr new =>
              have same : index = reader.cursor := new.1
              exact .inr ⟨Nat.le_of_eq same.symm, same ▸ kept⟩
      | inr unread => exact .inr ⟨Nat.le_of_succ_le unread.1, unread.2⟩

theorem overwritten_idle (sound : reader.Sound) (effect : Effect capacity reaction reader after)
    (grown : reader.sent.length < after.sent.length)
    (watched : after.Watched capacity reaction) :
    ∀ old ∈ reader.overwritten capacity, reaction old = none := by
  intro old overwritten
  cases effect with
  | sent event =>
      unfold Reader.overwritten at overwritten
      split_ifs at overwritten with full
      · have inside := (List.getElem?_eq_some_iff.mp overwritten).1
        have later : (reader.send event).sent[reader.sent.length - capacity]? = some old := by
          rw [Reader.send, List.getElem?_append_left inside]
          exact overwritten
        cases called : reaction old with
        | none => rfl
        | some work =>
            cases watched _ old work later called with
            | inl begun =>
                have read : reader.sent.length - capacity < reader.cursor := sound.begun _ begun
                omega
            | inr unread =>
                simp only [Reader.Unread, Reader.send, List.length_append,
                  List.length_singleton] at unread
                omega
      · cases overwritten
  | unchanged => exact absurd grown (Nat.lt_irrefl _)
  | skipped behind => exact absurd grown (Nat.lt_irrefl _)
  | took kept present => exact absurd grown (Nat.lt_irrefl _)

theorem watched_sent (positive : 0 < capacity) (sound : reader.Sound) {new : Event}
    (idle : ∀ old ∈ reader.overwritten capacity, reaction old = none)
    (watched : reader.Watched capacity reaction) :
    (reader.send new).Watched capacity reaction := by
  intro index event work present called
  have ordered := sound.cursor
  by_cases inside : index < reader.sent.length
  · rw [Reader.send, List.getElem?_append_left inside] at present
    cases watched index event work present called with
    | inl begun => exact .inl begun
    | inr unread =>
        by_cases last : reader.sent.length = index + capacity
        · have gone : reader.overwritten capacity = some event := by
            unfold Reader.overwritten
            rw [if_pos (last ▸ Nat.add_le_add_right unread.1 capacity), last,
              Nat.add_sub_cancel, present]
          rw [idle event gone] at called
          cases called
        · have kept := unread.2
          apply Or.inr
          apply And.intro unread.1
          simp only [Reader.send, List.length_append, List.length_singleton]
          omega
  · have bound := (List.getElem?_eq_some_iff.mp present).1
    simp only [Reader.send, List.length_append, List.length_singleton] at bound
    apply Or.inr
    constructor
    · simp only [Reader.send]
      omega
    · simp only [Reader.send, List.length_append, List.length_singleton]
      omega

theorem watched_step (positive : 0 < capacity) (sound : reader.Sound)
    (effect : Effect capacity reaction reader after)
    (idle : reader.sent.length < after.sent.length →
      ∀ old ∈ reader.overwritten capacity, reaction old = none)
    (watched : reader.Watched capacity reaction) : after.Watched capacity reaction := by
  cases effect with
  | unchanged => exact watched
  | sent event => exact watched_sent positive sound (idle (by simp [Reader.send])) watched
  | skipped behind =>
      intro index event work present called
      cases watched index event work present called with
      | inl begun => exact .inl begun
      | inr unread => exact .inr ⟨Nat.sub_le_iff_le_add.mpr unread.2, unread.2⟩
  | @took event kept next =>
      intro index other work present called
      cases watched index other work present called with
      | inl begun => exact .inl (mem_begun_take.mpr (.inl begun))
      | inr unread =>
          by_cases same : index = reader.cursor
          · subst same
            cases next.symm.trans present
            exact .inl (mem_begun_take.mpr (.inr ⟨rfl, called⟩))
          · exact .inr ⟨Nat.lt_of_le_of_ne unread.1 (Ne.symm same), unread.2⟩

/-- A reader that has read everything has begun all the work called for. -/
theorem begun_of_watched (watched : reader.Watched capacity reaction)
    (read : reader.cursor = reader.sent.length) {index : Nat} {event : Event} {work : Work}
    (present : reader.sent[index]? = some event) (called : reaction event = some work) :
    (index, work) ∈ reader.begun := by
  cases watched index event work present called with
  | inl begun => exact begun
  | inr unread =>
      have inside := (List.getElem?_eq_some_iff.mp present).1
      exact absurd inside (Nat.not_lt.mpr (read ▸ unread.1))

/-! ## Systems with a reader -/

section System

variable {State Label : Type*} {step : State → Label → Option State}
variable {view : State → Reader Event Work}

/-- A step that sends an event overwrites no unread one that calls for work. -/
def keepsUnread (capacity : Nat) (reaction : Event → Option Work)
    (step : State → Label → Option State) (view : State → Reader Event Work) (state : State)
    (label : Label) : Prop :=
  ∀ next ∈ step state label, (view state).sent.length < (view next).sent.length →
    ∀ old ∈ (view state).overwritten capacity, reaction old = none

instance [DecidableEq Work] (state : State) (label : Label) :
    Decidable (keepsUnread capacity reaction step view state label) :=
  inferInstanceAs (Decidable (∀ next ∈ step state label, _))

variable {first last : State} {labels : List Label}

def ActsOnReader (capacity : Nat) (reaction : Event → Option Work)
    (step : State → Label → Option State) (view : State → Reader Event Work) : Prop :=
  ∀ state label next, step state label = some next →
    Effect capacity reaction (view state) (view next)

theorem watched_of_keeps (positive : 0 < capacity) (acts : ActsOnReader capacity reaction step view)
    (sound : (view first).Sound) (watched : (view first).Watched capacity reaction)
    (run : Run step (keepsUnread capacity reaction step view) first labels last) :
    (view last).Watched capacity reaction := by
  have kept : (view last).Sound ∧ (view last).Watched capacity reaction := by
    apply run_invariant (fun state => (view state).Sound ∧ (view state).Watched capacity reaction)
      _ run ⟨sound, watched⟩
    intro state label next held idle taken
    have effect := acts state label next taken
    exact ⟨sound_step held.1 effect, watched_step positive held.1 effect (idle next taken) held.2⟩
  exact kept.2

theorem keeps_of_watched (acts : ActsOnReader capacity reaction step view)
    (sound : (view first).Sound) (run : Run step anyStep first labels last)
    (watched : (view last).Watched capacity reaction) :
    Run step (keepsUnread capacity reaction step view) first labels last := by
  induction run with
  | start => exact .start
  | @extend labels label state next prior allowed taken ih =>
      have effect := acts state label next taken
      have soundBefore : (view state).Sound := by
        apply run_invariant (fun state => (view state).Sound) _ prior sound
        intro before label after held _ stepped
        exact sound_step held (acts before label after stepped)
      apply Run.extend (ih (watched_before effect watched)) _ taken
      intro other found grown
      cases taken.symm.trans found
      exact overwritten_idle soundBefore effect grown watched

/-- No event that calls for work is lost exactly when no step overwrites one unread. -/
theorem watched_iff_keeps (positive : 0 < capacity)
    (acts : ActsOnReader capacity reaction step view) (sound : (view first).Sound)
    (watched : (view first).Watched capacity reaction) (run : Run step anyStep first labels last) :
    (view last).Watched capacity reaction ↔
      Run step (keepsUnread capacity reaction step view) first labels last :=
  ⟨keeps_of_watched acts sound run, watched_of_keeps positive acts sound watched⟩

end System

end Pathweave.LaggedReaders
