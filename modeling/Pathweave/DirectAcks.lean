import Pathweave.GuardedRuns
import Pathweave.RoutedEffects
import Pathweave.SampleMesh
import Pathweave.TaskLists

/-!
# Acknowledgements of direct messages

`dispatch_payload` treats a direct frame in three critical sections: it records the
message id in the deduplication cache, it looks up the handler and calls it unless
the frame was a duplicate, and it sends the acknowledgement. Sessions run
concurrently, so the sections of different frames interleave with each other and
with `on_message`. Run without a break, the three sections are `dispatchDirect`.
-/

namespace Pathweave

open ByteStrings GuardedRuns TaskLists

set_option autoImplicit false

structure DirectFrame where
  sender : PeerId
  messageId : UInt64
  data : Bytes
  deriving DecidableEq

def DirectFrame.key (frame : DirectFrame) : PeerId × UInt64 := (frame.sender, frame.messageId)

/-- How far the dispatch of a frame has come; `time` is the clock reading of its check. -/
inductive DirectTask where
  | arrived (frame : DirectFrame)
  | checked (frame : DirectFrame) (time : Nat) (isDup : Bool)
  | finishing (frame : DirectFrame) (time : Nat) (isDup : Bool)
  deriving DecidableEq

structure DirectRecord where
  frame : DirectFrame
  time : Nat
  deriving DecidableEq

structure DirectState where
  dedup : DeduplicationCache
  handlerRegistered : Bool
  clock : Nat
  tasks : List DirectTask
  invoked : List DirectRecord
  acknowledged : List DirectRecord

inductive DirectLabel where
  | onMessage
  | arrive (frame : DirectFrame)
  | check (task now : Nat)
  | handle (task : Nat)
  | acknowledge (task : Nat)
  | disconnect (task : Nat)
  deriving DecidableEq

def DirectState.start : DirectState where
  dedup := .new
  handlerRegistered := false
  clock := 0
  tasks := []
  invoked := []
  acknowledged := []

section Steps

variable (state : DirectState) (index : Nat)

def directCheckStep (now : Nat) : DirectTask → Option DirectState
  | .arrived frame =>
      if now < state.clock then none
      else
        let (isDup, dedup) := state.dedup.checkAndInsert now frame.sender frame.messageId
        some { state with
          dedup := dedup
          clock := now
          tasks := state.tasks.set index (.checked frame now isDup) }
  | _ => none

/-- The handler is looked up only for a frame that was not a duplicate. -/
def directHandleStep : DirectTask → Option DirectState
  | .checked frame time isDup =>
      let invoked := if !isDup && state.handlerRegistered then [⟨frame, time⟩] else []
      some { state with
        tasks := state.tasks.set index (.finishing frame time isDup)
        invoked := state.invoked ++ invoked }
  | _ => none

def directAckStep : DirectTask → Option DirectState
  | .finishing frame time _ =>
      some { state with
        tasks := state.tasks.eraseIdx index
        acknowledged := state.acknowledged ++ [⟨frame, time⟩] }
  | _ => none

/-- The session has failed, and the error of its last `send` is ignored. -/
def directDisconnectStep : DirectTask → Option DirectState
  | .finishing _ _ _ => some { state with tasks := state.tasks.eraseIdx index }
  | _ => none

end Steps

def directStep (state : DirectState) : DirectLabel → Option DirectState
  | .onMessage => some { state with handlerRegistered := true }
  | .arrive frame => some { state with tasks := state.tasks ++ [.arrived frame] }
  | .check index now => (state.tasks[index]?).bind (directCheckStep state index now)
  | .handle index => (state.tasks[index]?).bind (directHandleStep state index)
  | .acknowledge index => (state.tasks[index]?).bind (directAckStep state index)
  | .disconnect index => (state.tasks[index]?).bind (directDisconnectStep state index)

inductive DirectMove (state : DirectState) : DirectLabel → DirectState → Prop where
  | registered : DirectMove state .onMessage { state with handlerRegistered := true }
  | arrived (frame : DirectFrame) :
      DirectMove state (.arrive frame) { state with tasks := state.tasks ++ [.arrived frame] }
  | checked {index now : Nat} {frame : DirectFrame}
      (present : state.tasks[index]? = some (.arrived frame)) (later : state.clock ≤ now) :
      DirectMove state (.check index now)
        { state with
          dedup := (state.dedup.checkAndInsert now frame.sender frame.messageId).2
          clock := now
          tasks := state.tasks.set index (.checked frame now
            (state.dedup.checkAndInsert now frame.sender frame.messageId).1) }
  | handled {index time : Nat} {frame : DirectFrame} {isDup : Bool}
      (present : state.tasks[index]? = some (.checked frame time isDup)) :
      DirectMove state (.handle index)
        { state with
          tasks := state.tasks.set index (.finishing frame time isDup)
          invoked := state.invoked ++
            if !isDup && state.handlerRegistered then [⟨frame, time⟩] else [] }
  | acknowledged {index time : Nat} {frame : DirectFrame} {isDup : Bool}
      (present : state.tasks[index]? = some (.finishing frame time isDup)) :
      DirectMove state (.acknowledge index)
        { state with
          tasks := state.tasks.eraseIdx index
          acknowledged := state.acknowledged ++ [⟨frame, time⟩] }
  | disconnected {index time : Nat} {frame : DirectFrame} {isDup : Bool}
      (present : state.tasks[index]? = some (.finishing frame time isDup)) :
      DirectMove state (.disconnect index) { state with tasks := state.tasks.eraseIdx index }

theorem direct_step_moves {state next : DirectState} {label : DirectLabel}
    (taken : directStep state label = some next) : DirectMove state label next := by
  cases label with
  | onMessage =>
      cases taken
      exact .registered
  | arrive frame =>
      cases taken
      exact .arrived frame
  | check index now =>
      obtain ⟨task, present, stepped⟩ := Option.bind_eq_some_iff.mp taken
      cases task with
      | arrived frame =>
          simp only [directCheckStep] at stepped
          split_ifs at stepped with early
          cases stepped
          exact .checked present (Nat.le_of_not_lt early)
      | _ => cases stepped
  | handle index =>
      obtain ⟨task, present, stepped⟩ := Option.bind_eq_some_iff.mp taken
      cases task with
      | checked frame time isDup =>
          cases stepped
          exact .handled present
      | _ => cases stepped
  | acknowledge index =>
      obtain ⟨task, present, stepped⟩ := Option.bind_eq_some_iff.mp taken
      cases task with
      | finishing frame time isDup =>
          cases stepped
          exact .acknowledged present
      | _ => cases stepped
  | disconnect index =>
      obtain ⟨task, present, stepped⟩ := Option.bind_eq_some_iff.mp taken
      cases task with
      | finishing frame time isDup =>
          cases stepped
          exact .disconnected present
      | _ => cases stepped

/-- The three sections in a row do to the cache and to the handler what
`dispatchDirect` does, and always acknowledge. -/
theorem uninterrupted_dispatch {prims : Primitives} (node : NodeState prims) (frame : DirectFrame)
    (now : Nat) (state : DirectState) (idle : state.tasks = []) (later : state.clock ≤ now)
    (cache : state.dedup = node.dedup)
    (registered : state.handlerRegistered = node.handlerRegistered) :
    execute directStep state [.arrive frame, .check 0 now, .handle 0, .acknowledge 0] =
      some { state with
        dedup := (frameOutcome node frame.sender now (.direct frame.messageId frame.data)).node.dedup
        clock := now
        invoked := state.invoked ++
          if (frameOutcome node frame.sender now
            (.direct frame.messageId frame.data)).delivered.isSome then [⟨frame, now⟩] else []
        acknowledged := state.acknowledged ++ [⟨frame, now⟩] } := by
  rw [direct_outcome_dedup]
  have reading : ¬now < state.clock := Nat.not_lt_of_le later
  simp only [execute, directStep, idle, List.nil_append, List.getElem?_cons_zero, Option.bind_some,
    directCheckStep, reading, if_false, List.set_cons_zero, directHandleStep, directAckStep,
    List.eraseIdx_cons_zero, cache, registered, frameOutcome]
  cases (node.dedup.checkAndInsert now frame.sender frame.messageId).1 <;>
    cases node.handlerRegistered <;> simp [acknowledged, NodeState.onMessage]

/-! ## The condition -/

def DirectTask.awaitsHandler (key : PeerId × UInt64) : DirectTask → Option Nat
  | .checked frame time false => if frame.key = key then some time else none
  | _ => none

def inWindow (ttl earlier later : Nat) : Bool :=
  decide (earlier ≤ later ∧ later < earlier + ttl)

def lookupFails (state : DirectState) (index : Nat) : Bool :=
  match state.tasks[index]? with
  | some (.checked _ _ false) => !state.handlerRegistered
  | _ => false

/-- A duplicate is about to be acknowledged before the frame it repeats is handled. -/
def overtakes (state : DirectState) (index : Nat) : Bool :=
  match state.tasks[index]? with
  | some (.finishing frame time true) =>
      state.tasks.any fun task =>
        (task.awaitsHandler frame.key).any fun earlier => inWindow state.dedup.ttl earlier time
  | _ => false

/-- A frame that is no duplicate finds a handler, and its duplicates wait for its call. -/
def handledFirst (state : DirectState) : DirectLabel → Prop
  | .handle index => lookupFails state index = false
  | .acknowledge index => overtakes state index = false
  | _ => True

instance (state : DirectState) (label : DirectLabel) : Decidable (handledFirst state label) :=
  match label with
  | .onMessage => isTrue trivial
  | .arrive _ => isTrue trivial
  | .check _ _ => isTrue trivial
  | .handle index => inferInstanceAs (Decidable (lookupFails state index = false))
  | .acknowledge index => inferInstanceAs (Decidable (overtakes state index = false))
  | .disconnect _ => isTrue trivial

/-! ## The invariant -/

def DirectState.Invoked (state : DirectState) (key : PeerId × UInt64) (time : Nat) : Prop :=
  ∃ record ∈ state.invoked, record.frame.key = key ∧ record.time = time

def DirectState.Answered (state : DirectState) (key : PeerId × UInt64) (time : Nat) : Prop :=
  state.Invoked key time ∨ ∃ task ∈ state.tasks, task.awaitsHandler key = some time

/-- The handler call a frame checked at `time` relies on. -/
def DirectState.Covered (state : DirectState) (called : PeerId × UInt64 → Nat → Prop)
    (key : PeerId × UInt64) (time : Nat) : Prop :=
  ∃ earlier, inWindow state.dedup.ttl earlier time = true ∧ called key earlier

/-- What a dispatch relies on at each point of its course. -/
def DirectState.Supported (state : DirectState) : DirectTask → Prop
  | .arrived _ => True
  | .checked _ _ false => True
  | .checked frame time true => state.Covered state.Answered frame.key time
  | .finishing frame time true => state.Covered state.Answered frame.key time
  | .finishing frame time false => state.Covered state.Invoked frame.key time

structure AcksCovered (state : DirectState) : Prop where
  lifetime : 0 < state.dedup.ttl
  past : ∀ key time, state.dedup.seen key = some time → time ≤ state.clock
  entries : ∀ key time, state.dedup.seen key = some time → state.Answered key time
  tasks : ∀ task ∈ state.tasks, state.Supported task
  acknowledged : ∀ record ∈ state.acknowledged,
    state.Covered state.Invoked record.frame.key record.time

structure Extends (state next : DirectState) : Prop where
  ttl : next.dedup.ttl = state.dedup.ttl
  invoked : ∀ key time, state.Invoked key time → next.Invoked key time
  answered : ∀ key time, state.Answered key time → next.Answered key time

section Extension

variable {state next : DirectState} {index : Nat} {task : DirectTask}

theorem covered_extends {called calledNext : PeerId × UInt64 → Nat → Prop}
    (ttl : next.dedup.ttl = state.dedup.ttl)
    (kept : ∀ key time, called key time → calledNext key time) {key : PeerId × UInt64} {time : Nat}
    (covered : state.Covered called key time) : next.Covered calledNext key time := by
  obtain ⟨earlier, window, found⟩ := covered
  exact ⟨earlier, ttl ▸ window, kept key earlier found⟩

theorem supported_extends (grown : Extends state next) (supported : state.Supported task) :
    next.Supported task := by
  cases task with
  | arrived frame => trivial
  | checked frame time isDup =>
      cases isDup with
      | false => trivial
      | true => exact covered_extends grown.ttl grown.answered supported
  | finishing frame time isDup =>
      cases isDup with
      | false => exact covered_extends grown.ttl grown.invoked supported
      | true => exact covered_extends grown.ttl grown.answered supported

theorem extends_of_kept (ttl : next.dedup.ttl = state.dedup.ttl)
    (calls : ∀ record ∈ state.invoked, record ∈ next.invoked)
    (waiting : ∀ task ∈ state.tasks, ∀ key time, task.awaitsHandler key = some time →
      task ∈ next.tasks ∨ next.Invoked key time) : Extends state next := by
  have invoked : ∀ key time, state.Invoked key time → next.Invoked key time := by
    intro key time found
    obtain ⟨record, member, same⟩ := found
    exact ⟨record, calls record member, same⟩
  constructor
  · exact ttl
  · exact invoked
  · intro key time answered
    cases answered with
    | inl found => exact .inl (invoked key time found)
    | inr pending =>
        obtain ⟨task, member, awaits⟩ := pending
        cases waiting task member key time awaits with
        | inl stays => exact .inr ⟨task, stays, awaits⟩
        | inr called => exact .inl called

theorem ne_of_awaits {old : DirectTask} {key : PeerId × UInt64} {time : Nat}
    (awaits : task.awaitsHandler key = some time) (idle : old.awaitsHandler key = none) :
    task ≠ old := by
  intro same
  subst same
  rw [idle] at awaits
  cases awaits

theorem extends_move {label : DirectLabel} (allowed : handledFirst state label)
    (moved : DirectMove state label next) : Extends state next := by
  cases moved with
  | registered => exact extends_of_kept rfl (fun _ => id) (fun _ member _ _ _ => .inl member)
  | arrived frame =>
      exact extends_of_kept rfl (fun _ => id)
        (fun _ member _ _ _ => .inl (List.mem_append_left _ member))
  | checked present later =>
      exact extends_of_kept rfl (fun _ => id)
        (fun _ member _ _ awaits => .inl (mem_set_of_ne present member (ne_of_awaits awaits rfl)))
  | @handled index checkedAt frame isDup present =>
      apply extends_of_kept
      · rfl
      · intro record member
        exact List.mem_append_left _ member
      · intro task member key time awaits
        by_cases same : task = .checked frame checkedAt isDup
        · -- The awaited call itself: the condition says that it finds its handler.
          subst same
          cases isDup with
          | true => cases awaits
          | false =>
              simp only [handledFirst, lookupFails, present, Bool.not_eq_false'] at allowed
              simp only [DirectTask.awaitsHandler] at awaits
              split_ifs at awaits with matching
              cases awaits
              exact .inr ⟨⟨frame, checkedAt⟩, by simp [allowed], matching, rfl⟩
        · exact .inl (mem_set_of_ne present member same)
  | acknowledged present =>
      exact extends_of_kept rfl (fun _ => id)
        (fun _ member _ _ awaits =>
          .inl (mem_erase_idx_of_ne present member (ne_of_awaits awaits rfl)))
  | disconnected present =>
      exact extends_of_kept rfl (fun _ => id)
        (fun _ member _ _ awaits =>
          .inl (mem_erase_idx_of_ne present member (ne_of_awaits awaits rfl)))

end Extension

section Steps

variable {state next : DirectState} {index : Nat}

/-- A duplicate repeats a frame whose check lies in the window and is answered. -/
theorem duplicate_covered (covered : AcksCovered state) {frame : DirectFrame} {now : Nat}
    (later : state.clock ≤ now)
    (found : (state.dedup.checkAndInsert now frame.sender frame.messageId).1 = true) :
    state.Covered state.Answered frame.key now := by
  obtain ⟨inserted, entry, fresh⟩ := check_found found
  have past := covered.past _ _ entry
  rw [fresh_iff] at fresh
  apply Exists.intro inserted
  apply And.intro _ (covered.entries _ _ entry)
  simp only [inWindow, decide_eq_true_eq]
  omega

theorem invoked_of_not_overtaking {frame : DirectFrame} {time : Nat}
    (present : state.tasks[index]? = some (.finishing frame time true))
    (waits : overtakes state index = false)
    (covered : state.Covered state.Answered frame.key time) :
    state.Covered state.Invoked frame.key time := by
  obtain ⟨earlier, window, answered⟩ := covered
  apply Exists.intro earlier
  apply And.intro window
  apply answered.resolve_right
  intro pending
  obtain ⟨task, member, awaits⟩ := pending
  simp only [overtakes, present, List.any_eq_false] at waits
  apply waits task member
  simp [awaits, window]

theorem acks_covered_of_extends (covered : AcksCovered state) (grown : Extends state next)
    (past : ∀ key time, next.dedup.seen key = some time → time ≤ next.clock)
    (entries : ∀ key time, next.dedup.seen key = some time →
      state.dedup.seen key = some time ∨ next.Answered key time)
    (tasks : ∀ task ∈ next.tasks, task ∈ state.tasks ∨ next.Supported task)
    (acknowledged : ∀ record ∈ next.acknowledged, record ∈ state.acknowledged ∨
      next.Covered next.Invoked record.frame.key record.time) : AcksCovered next := by
  constructor
  · rw [grown.ttl]
    exact covered.lifetime
  · exact past
  · intro key time entry
    cases entries key time entry with
    | inl old => exact grown.answered key time (covered.entries key time old)
    | inr new => exact new
  · intro task member
    cases tasks task member with
    | inl old => exact supported_extends grown (covered.tasks task old)
    | inr new => exact new
  · intro record member
    cases acknowledged record member with
    | inl old => exact covered_extends grown.ttl grown.invoked (covered.acknowledged record old)
    | inr new => exact new

theorem acks_covered_step {label : DirectLabel} (covered : AcksCovered state)
    (allowed : handledFirst state label) (taken : directStep state label = some next) :
    AcksCovered next := by
  have moved := direct_step_moves taken
  have grown := extends_move allowed moved
  cases moved with
  | registered =>
      exact acks_covered_of_extends covered grown covered.past (fun _ _ => .inl) (fun _ => .inl)
        (fun _ => .inl)
  | arrived frame =>
      apply acks_covered_of_extends covered grown covered.past (fun _ _ => .inl) _ (fun _ => .inl)
      intro task member
      apply (List.mem_append.mp member).imp_right
      intro new
      rw [List.mem_singleton.mp new]
      trivial
  | @checked index now frame present later =>
      apply acks_covered_of_extends covered grown _ _ _ (fun _ => .inl)
      · intro key time entry
        cases check_entry entry with
        | inl old => exact (covered.past key time old).trans later
        | inr new => exact Nat.le_of_eq new.1
      · intro key time entry
        cases check_entry entry with
        | inl old => exact .inl old
        | inr new =>
            obtain ⟨atNow, same, first⟩ := new
            have replaced : DirectTask.checked frame now false ∈ state.tasks.set index
                (.checked frame now
                  (state.dedup.checkAndInsert now frame.sender frame.messageId).1) := by
              have unseen :
                  (state.dedup.checkAndInsert now frame.sender frame.messageId).1 = false := first
              rw [unseen]
              exact mem_set_new present
            apply Or.inr
            apply Or.inr
            exact ⟨_, replaced, by simp [DirectTask.awaitsHandler, DirectFrame.key, same, atNow]⟩
      · intro task member
        apply (List.mem_or_eq_of_mem_set member).imp_right
        intro new
        have supported : ∀ isDup,
            (state.dedup.checkAndInsert now frame.sender frame.messageId).1 = isDup →
            state.Supported (.checked frame now isDup) := by
          intro isDup found
          cases isDup with
          | false => trivial
          | true => exact duplicate_covered covered later found
        rw [new]
        exact supported_extends grown (supported _ rfl)
  | @handled index time frame isDup present =>
      apply acks_covered_of_extends covered grown covered.past (fun _ _ => .inl) _ (fun _ => .inl)
      intro task member
      apply (List.mem_or_eq_of_mem_set member).imp_right
      intro new
      subst new
      have supported := covered.tasks _ (List.mem_of_getElem? present)
      cases isDup with
      | true => exact covered_extends grown.ttl grown.answered supported
      | false =>
          simp only [handledFirst, lookupFails, present, Bool.not_eq_false'] at allowed
          have lifetime := covered.lifetime
          apply Exists.intro time
          constructor
          · simp only [inWindow, decide_eq_true_eq]
            omega
          · exact ⟨⟨frame, time⟩, by simp [allowed], rfl, rfl⟩
  | @acknowledged index time frame isDup present =>
      apply acks_covered_of_extends covered grown covered.past (fun _ _ => .inl)
        (fun _ member => .inl (List.mem_of_mem_eraseIdx member))
      intro record member
      apply (List.mem_append.mp member).imp_right
      intro new
      rw [List.mem_singleton.mp new]
      have supported := covered.tasks _ (List.mem_of_getElem? present)
      apply covered_extends grown.ttl grown.invoked
      cases isDup with
      | true => exact invoked_of_not_overtaking present allowed supported
      | false => exact supported
  | disconnected present =>
      exact acks_covered_of_extends covered grown covered.past (fun _ _ => .inl)
        (fun _ member => .inl (List.mem_of_mem_eraseIdx member)) (fun _ => .inl)

end Steps

/-- Every acknowledged frame has had a handler call for its sender and id, by itself or
by a frame checked less than the lifetime of a cache entry earlier. -/
def AcksHandled (state : DirectState) : Prop :=
  ∀ ack ∈ state.acknowledged, ∃ call ∈ state.invoked,
    call.frame.sender = ack.frame.sender ∧ call.frame.messageId = ack.frame.messageId ∧
      call.time ≤ ack.time ∧ ack.time < call.time + dedupTtl

theorem direct_ttl_run {guard : DirectState → DirectLabel → Prop} {labels : List DirectLabel}
    {state : DirectState} (run : Run directStep guard .start labels state) :
    state.dedup.ttl = dedupTtl := by
  induction run with
  | start => rfl
  | extend prior allowed taken ih =>
      cases direct_step_moves taken <;> exact ih

theorem acknowledged_direct_handled {labels : List DirectLabel} {state : DirectState}
    (run : Run directStep handledFirst .start labels state) : AcksHandled state := by
  have covered : AcksCovered state := by
    apply run_invariant AcksCovered _ run
    · constructor
      · simp [DirectState.start, DeduplicationCache.new, DeduplicationCache.withTtl, dedupTtl,
          seconds]
      · intro key time entry
        cases entry
      · intro key time entry
        cases entry
      · intro task member
        cases member
      · intro record member
        cases member
    · intro before label after held allowed taken
      exact acks_covered_step held allowed taken
  intro ack member
  obtain ⟨earlier, window, call, called, key, time⟩ := covered.acknowledged ack member
  simp only [inWindow, decide_eq_true_eq, direct_ttl_run run] at window
  subst time
  exact ⟨call, called, congrArg Prod.fst key, congrArg Prod.snd key, window⟩

def greeting : DirectFrame where
  sender := samplePeer 2
  messageId := 7
  data := [1]

def dispatchAt (now : Nat) : List DirectLabel :=
  [.arrive greeting, .check 0 now, .handle 0, .acknowledge 0]

theorem acknowledged_direct_handled_retransmission :
    ∃ state, Run directStep handledFirst .start
        (.onMessage :: dispatchAt 0 ++ dispatchAt (seconds 1)) state ∧
      state.acknowledged.length = 2 ∧ state.invoked.length = 1 ∧ AcksHandled state := by
  have finished : ((execute (fun state label =>
      if handledFirst state label then directStep state label else none) .start
        (.onMessage :: dispatchAt 0 ++ dispatchAt (seconds 1))).map fun state =>
          (state.acknowledged.length, state.invoked.length)) = some (2, 1) := by
    decide +kernel
  obtain ⟨state, reached, found⟩ := Option.map_eq_some_iff.mp finished
  have run := run_of_execute_guarded reached
  simp only [Prod.mk.injEq] at found
  exact ⟨state, run, found.1, found.2, acknowledged_direct_handled run⟩

def AlwaysHandled : Prop :=
  ∀ (labels : List DirectLabel) (state : DirectState),
    Run directStep anyStep .start labels state → AcksHandled state

/-- A frame that arrives before `on_message` is acknowledged unseen, and its
retransmission one second later is acknowledged as a duplicate. -/
theorem early_frame_acknowledged_unhandled : ¬AlwaysHandled := by
  intro always
  have finished : ((execute directStep .start
      (dispatchAt 0 ++ .onMessage :: dispatchAt (seconds 1))).map fun state =>
        (state.acknowledged, state.invoked)) =
      some ([⟨greeting, 0⟩, ⟨greeting, seconds 1⟩], []) := by
    decide +kernel
  obtain ⟨state, reached, found⟩ := Option.map_eq_some_iff.mp finished
  simp only [Prod.mk.injEq] at found
  have handled := always _ state (run_of_execute reached)
  obtain ⟨call, called, _⟩ := handled ⟨greeting, 0⟩ (by simp [found.1])
  rw [found.2] at called
  cases called

end Pathweave
