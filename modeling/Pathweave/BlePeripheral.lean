import Mathlib.Data.Finset.Basic
import Pathweave.ByteStrings
import Pathweave.GuardedRuns

/-!
# Replies of the BLE peripheral on Linux

`peripheral_loop` holds the notification writer of its present subscriber and hands
every connection a clone of one sender, so the replies of all connections stand in one
queue. A new subscriber replaces the writer as soon as the connection of the old one
is dropped or its writer has failed. Replies that are still queued, and those of
connections that are still held, then go to the new subscriber.
-/

namespace Pathweave

open ByteStrings GuardedRuns

set_option autoImplicit false

/-! ## The loop -/

structure PeripheralReply where
  connection : Nat
  bytes : Bytes
  deriving DecidableEq

structure HandedReply where
  writer : Nat
  reply : PeripheralReply
  deriving DecidableEq

/-- Subscribers are numbered, and a connection has the number of the subscriber it was
created for. The connections are those not dropped yet; what was forwarded and what was
handed to a writer is history. -/
structure PeripheralLoop where
  writer : Option Nat
  activeWriteTx : Option Nat
  replies : List PeripheralReply
  connections : Finset Nat
  subscribers : Nat
  returned : Bool
  forwarded : List PeripheralReply
  handed : List HandedReply

namespace PeripheralLoop

def new : PeripheralLoop where
  writer := none
  activeWriteTx := none
  replies := []
  connections := ∅
  subscribers := 0
  returned := false
  forwarded := []
  handed := []

def isActive (loop : PeripheralLoop) : Bool :=
  loop.activeWriteTx.any fun connection => decide (connection ∈ loop.connections)

end PeripheralLoop

/-- `notify` says whether the new connection can still be sent to `accept`, `write`
what can be read of the request, and `takeReply` whether the write succeeds. -/
inductive PeripheralLabel where
  | notify (delivered : Bool)
  | write (bytes : Option Bytes)
  | close
  | reply (connection : Nat) (bytes : Bytes)
  | drop (connection : Nat)
  | takeReply (written : Bool)
  deriving DecidableEq

def PeripheralLoop.subscribe (loop : PeripheralLoop) (delivered : Bool) : PeripheralLoop :=
  { loop with
    writer := some loop.subscribers
    activeWriteTx := some loop.subscribers
    connections := if delivered then insert loop.subscribers loop.connections
      else loop.connections
    subscribers := loop.subscribers + 1 }

/-- A write that is forwarded to the active connection, or shows that it was dropped. -/
def PeripheralLoop.forward (loop : PeripheralLoop) (connection : Nat) (bytes : Bytes) :
    PeripheralLoop :=
  if connection ∈ loop.connections then
    { loop with forwarded := loop.forwarded ++ [⟨connection, bytes⟩] }
  else { loop with activeWriteTx := none }

/-- A write that fails may have written a part of the reply. -/
def PeripheralLoop.hand (loop : PeripheralLoop) (writer : Nat) (reply : PeripheralReply)
    (rest : List PeripheralReply) (written : Bool) : PeripheralLoop :=
  { loop with
    writer := if written then loop.writer else none
    activeWriteTx := if written then loop.activeWriteTx else none
    replies := rest
    handed := loop.handed ++ [⟨writer, reply⟩] }

def peripheralStep (loop : PeripheralLoop) : PeripheralLabel → Option PeripheralLoop
  | .drop connection =>
      if connection ∈ loop.connections then
        some { loop with connections := loop.connections.erase connection }
      else none
  | label =>
      if loop.returned then none
      else
        match label with
        | .notify delivered =>
            if loop.isActive then some { loop with subscribers := loop.subscribers + 1 }
            else some (loop.subscribe delivered)
        | .write bytes =>
            match loop.activeWriteTx, bytes with
            | some connection, some bytes => some (loop.forward connection bytes)
            | _, _ => some loop
        | .close => some { loop with returned := true }
        | .reply connection bytes =>
            if connection ∈ loop.connections then
              some { loop with replies := loop.replies ++ [⟨connection, bytes⟩] }
            else none
        | .takeReply written =>
            match loop.writer, loop.replies with
            | some writer, reply :: rest => some (loop.hand writer reply rest written)
            | _, _ => none
        | .drop _ => none

/-! ## What a step does -/

inductive PeripheralMove (loop : PeripheralLoop) : PeripheralLabel → PeripheralLoop → Prop where
  | ignored {delivered : Bool} :
      PeripheralMove loop (.notify delivered) { loop with subscribers := loop.subscribers + 1 }
  | subscribed {delivered : Bool} (free : loop.isActive = false) :
      PeripheralMove loop (.notify delivered) (loop.subscribe delivered)
  | discarded {bytes : Option Bytes} : PeripheralMove loop (.write bytes) loop
  | forwarded {connection : Nat} {bytes : Bytes} :
      PeripheralMove loop (.write (some bytes)) (loop.forward connection bytes)
  | closed : PeripheralMove loop .close { loop with returned := true }
  | replied {connection : Nat} {bytes : Bytes} (alive : connection ∈ loop.connections) :
      PeripheralMove loop (.reply connection bytes)
        { loop with replies := loop.replies ++ [⟨connection, bytes⟩] }
  | dropped {connection : Nat} :
      PeripheralMove loop (.drop connection)
        { loop with connections := loop.connections.erase connection }
  | handed {written : Bool} {writer : Nat} {reply : PeripheralReply} {rest : List PeripheralReply}
      (held : loop.writer = some writer) (queued : loop.replies = reply :: rest) :
      PeripheralMove loop (.takeReply written) (loop.hand writer reply rest written)

theorem peripheral_step_moves {loop next : PeripheralLoop} {label : PeripheralLabel}
    (taken : peripheralStep loop label = some next) : PeripheralMove loop label next := by
  cases label with
  | drop connection =>
      simp only [peripheralStep] at taken
      split_ifs at taken
      cases taken
      exact .dropped
  | notify delivered =>
      simp only [peripheralStep] at taken
      split_ifs at taken with returned active
      · cases taken
        exact .ignored
      · cases taken
        exact .subscribed (by simpa using active)
  | write bytes =>
      simp only [peripheralStep] at taken
      split_ifs at taken
      split at taken
      · cases taken
        exact .forwarded
      · cases taken
        exact .discarded
  | close =>
      simp only [peripheralStep] at taken
      split_ifs at taken
      cases taken
      exact .closed
  | reply connection bytes =>
      simp only [peripheralStep] at taken
      split_ifs at taken with returned alive
      cases taken
      exact .replied alive
  | takeReply written =>
      simp only [peripheralStep] at taken
      split_ifs at taken
      split at taken
      · next held queued =>
          cases taken
          exact .handed held queued
      · cases taken

theorem forward_frame (loop : PeripheralLoop) (connection : Nat) (bytes : Bytes) :
    (loop.forward connection bytes).writer = loop.writer ∧
      (loop.forward connection bytes).replies = loop.replies ∧
      (loop.forward connection bytes).connections = loop.connections ∧
      (loop.forward connection bytes).subscribers = loop.subscribers ∧
      (loop.forward connection bytes).handed = loop.handed := by
  unfold PeripheralLoop.forward
  split_ifs <;> exact ⟨rfl, rfl, rfl, rfl, rfl⟩

/-! ## One subscriber at a time -/

def PeripheralLoop.Quiet (loop : PeripheralLoop) : Prop :=
  loop.replies = [] ∧ loop.connections = ∅

instance (loop : PeripheralLoop) : Decidable loop.Quiet := inferInstanceAs (Decidable (_ ∧ _))

def quietNotify (loop : PeripheralLoop) : PeripheralLabel → Prop
  | .notify _ => loop.isActive = false → loop.Quiet
  | _ => True

instance (loop : PeripheralLoop) (label : PeripheralLabel) : Decidable (quietNotify loop label) :=
  match label with
  | .notify _ => inferInstanceAs (Decidable (_ → _))
  | .write _ | .close | .reply _ _ | .drop _ | .takeReply _ => .isTrue trivial

def RepliesIsolated (loop : PeripheralLoop) : Prop :=
  ∀ handed ∈ loop.handed, handed.reply.connection = handed.writer

instance (loop : PeripheralLoop) : Decidable (RepliesIsolated loop) :=
  inferInstanceAs (Decidable (∀ handed ∈ loop.handed, _))

/-- The replies, the connections and the writer are all those of one subscriber. -/
structure ServesOne (current : Nat) (loop : PeripheralLoop) : Prop where
  replies : ∀ reply ∈ loop.replies, reply.connection = current
  connections : ∀ connection ∈ loop.connections, connection = current
  writer : ∀ writer, loop.writer = some writer → writer = current
  isolated : RepliesIsolated loop

theorem serves_one_step {current : Nat} {loop next : PeripheralLoop} {label : PeripheralLabel}
    (serves : ServesOne current loop) (allowed : quietNotify loop label)
    (taken : peripheralStep loop label = some next) :
    ∃ subscriber, ServesOne subscriber next := by
  cases peripheral_step_moves taken with
  | subscribed free =>
      obtain ⟨empty, none⟩ := allowed free
      refine ⟨loop.subscribers, ⟨?_, ?_, ?_, serves.isolated⟩⟩
      · simp [PeripheralLoop.subscribe, empty]
      · intro connection member
        simp only [PeripheralLoop.subscribe, none] at member
        split_ifs at member
        · simpa using member
        · simp at member
      · intro writer held
        simpa [PeripheralLoop.subscribe, eq_comm] using held
  | ignored | discarded | closed =>
      exact ⟨current, serves.replies, serves.connections, serves.writer, serves.isolated⟩
  | @forwarded connection bytes =>
      obtain ⟨writer, replies, connections, _, handed⟩ := forward_frame loop connection bytes
      refine ⟨current, ⟨?_, ?_, ?_, ?_⟩⟩
      · rw [replies]
        exact serves.replies
      · rw [connections]
        exact serves.connections
      · rw [writer]
        exact serves.writer
      · rw [RepliesIsolated, handed]
        exact serves.isolated
  | replied alive =>
      refine ⟨current, ⟨?_, serves.connections, serves.writer, serves.isolated⟩⟩
      intro reply member
      rcases List.mem_append.mp member with old | new
      · exact serves.replies reply old
      · rw [List.mem_singleton.mp new]
        exact serves.connections _ alive
  | dropped =>
      refine ⟨current, ⟨serves.replies, ?_, serves.writer, serves.isolated⟩⟩
      intro connection member
      exact serves.connections connection (Finset.mem_of_mem_erase member)
  | handed held queued =>
      refine ⟨current, ⟨?_, serves.connections, ?_, ?_⟩⟩
      · intro reply member
        exact serves.replies reply (queued ▸ List.mem_cons_of_mem _ member)
      · intro writer kept
        simp only [PeripheralLoop.hand] at kept
        split_ifs at kept
        exact serves.writer writer kept
      · intro handed member
        rcases List.mem_append.mp member with old | new
        · exact serves.isolated handed old
        · rw [List.mem_singleton.mp new]
          dsimp only
          rw [serves.writer _ held]
          exact serves.replies _ (queued ▸ List.mem_cons_self)

theorem serves_one_run {first last : PeripheralLoop} {labels : List PeripheralLabel}
    (serves : ∃ current, ServesOne current first)
    (run : Run peripheralStep quietNotify first labels last) :
    ∃ current, ServesOne current last :=
  run_invariant (fun loop => ∃ current, ServesOne current loop)
    (fun _ _ _ held allowed taken => by
      obtain ⟨current, serves⟩ := held
      exact serves_one_step serves allowed taken) run serves

theorem serves_one_new : ServesOne 0 .new :=
  ⟨nofun, nofun, nofun, nofun⟩

/-! ## A subscriber that comes too early -/

structure ConnectionsNumbered (loop : PeripheralLoop) : Prop where
  replies : ∀ reply ∈ loop.replies, reply.connection < loop.subscribers
  connections : ∀ connection ∈ loop.connections, connection < loop.subscribers

theorem connections_numbered_step {loop next : PeripheralLoop} {label : PeripheralLabel}
    (numbered : ConnectionsNumbered loop) (taken : peripheralStep loop label = some next) :
    ConnectionsNumbered next := by
  cases peripheral_step_moves taken with
  | ignored =>
      exact ⟨fun reply member => (numbered.replies reply member).trans (Nat.lt_succ_self _),
        fun connection member => (numbered.connections connection member).trans
          (Nat.lt_succ_self _)⟩
  | subscribed free =>
      constructor
      · exact fun reply member => (numbered.replies reply member).trans (Nat.lt_succ_self _)
      · intro connection member
        simp only [PeripheralLoop.subscribe] at member ⊢
        have known : connection = loop.subscribers ∨ connection ∈ loop.connections := by
          split_ifs at member
          · exact Finset.mem_insert.mp member
          · exact .inr member
        rcases known with rfl | old
        · exact Nat.lt_succ_self _
        · exact (numbered.connections connection old).trans (Nat.lt_succ_self _)
  | discarded | closed => exact ⟨numbered.replies, numbered.connections⟩
  | @forwarded connection bytes =>
      obtain ⟨_, replies, connections, subscribers, _⟩ := forward_frame loop connection bytes
      constructor
      · rw [replies, subscribers]
        exact numbered.replies
      · rw [connections, subscribers]
        exact numbered.connections
  | replied alive =>
      refine ⟨?_, numbered.connections⟩
      intro reply member
      rcases List.mem_append.mp member with old | new
      · exact numbered.replies reply old
      · rw [List.mem_singleton.mp new]
        exact numbered.connections _ alive
  | dropped =>
      exact ⟨numbered.replies, fun connection member =>
        numbered.connections connection (Finset.mem_of_mem_erase member)⟩
  | handed held queued =>
      exact ⟨fun reply member => numbered.replies reply (queued ▸ List.mem_cons_of_mem _ member),
        numbered.connections⟩

theorem connections_numbered_run {guard : PeripheralLoop → PeripheralLabel → Prop}
    {loop : PeripheralLoop} {labels : List PeripheralLabel}
    (run : Run peripheralStep guard .new labels loop) : ConnectionsNumbered loop :=
  run_invariant ConnectionsNumbered (fun _ _ _ held _ taken => connections_numbered_step held taken)
    run ⟨nofun, nofun⟩

theorem hand_breaks_isolation {loop : PeripheralLoop} {writer : Nat} {reply : PeripheralReply}
    {rest : List PeripheralReply} (foreign : reply.connection < writer) :
    ¬ RepliesIsolated (loop.hand writer reply rest true) := by
  intro isolated
  have same : reply.connection = writer := isolated ⟨writer, reply⟩ (by simp [PeripheralLoop.hand])
  omega

/-- What is left of an earlier connection can be given to a new subscriber. -/
theorem leftover_misdelivered {loop : PeripheralLoop} (numbered : ConnectionsNumbered loop)
    (running : loop.returned = false) (delivered : Bool) (leftover : ¬ loop.Quiet) :
    ∃ labels last, Run peripheralStep quietNotify (loop.subscribe delivered) labels last ∧
      ¬ RepliesIsolated last := by
  cases queued : loop.replies with
  | cons reply rest =>
      have foreign : reply.connection < loop.subscribers :=
        numbered.replies reply (queued ▸ List.mem_cons_self)
      have taken : peripheralStep (loop.subscribe delivered) (.takeReply true) =
          some ((loop.subscribe delivered).hand loop.subscribers reply rest true) := by
        simp [peripheralStep, PeripheralLoop.subscribe, running, queued]
      exact ⟨_, _, run_one taken trivial, hand_breaks_isolation foreign⟩
  | nil =>
      have held : loop.connections.Nonempty := by
        rw [Finset.nonempty_iff_ne_empty]
        exact fun none => leftover ⟨queued, none⟩
      obtain ⟨connection, alive⟩ := held
      have foreign : connection < loop.subscribers := numbered.connections connection alive
      have present : connection ∈ (loop.subscribe delivered).connections := by
        simp only [PeripheralLoop.subscribe]
        split_ifs
        · exact Finset.mem_insert_of_mem alive
        · exact alive
      have replied : peripheralStep (loop.subscribe delivered) (.reply connection []) =
          some { loop.subscribe delivered with replies := [⟨connection, []⟩] } := by
        have alone : (loop.subscribe delivered).replies = [] := queued
        have serving : (loop.subscribe delivered).returned = false := running
        simp only [peripheralStep, serving, Bool.false_eq_true, if_false, present, if_true, alone,
          List.nil_append]
      have taken : peripheralStep
          { loop.subscribe delivered with replies := [⟨connection, []⟩] } (.takeReply true) =
          some (PeripheralLoop.hand { loop.subscribe delivered with replies := [⟨connection, []⟩] }
            loop.subscribers ⟨connection, []⟩ [] true) := by
        simp [peripheralStep, PeripheralLoop.subscribe, running]
      exact ⟨_, _, run_append (run_one replied trivial) (run_one taken trivial),
        hand_breaks_isolation foreign⟩

/-- While no subscriber is taken before everything of the earlier connections is gone,
replies go to their own subscriber. A subscriber that is taken earlier can receive the
replies of another one. -/
theorem reply_isolation_iff {labels : List PeripheralLabel} {loop : PeripheralLoop}
    (run : Run peripheralStep quietNotify .new labels loop) :
    RepliesIsolated loop ∧
    ∀ delivered, loop.returned = false → loop.isActive = false →
      ((∀ more last, Run peripheralStep quietNotify (loop.subscribe delivered) more last →
          RepliesIsolated last) ↔
        loop.Quiet) := by
  obtain ⟨current, serves⟩ := serves_one_run ⟨0, serves_one_new⟩ run
  refine ⟨serves.isolated, ?_⟩
  intro delivered running free
  constructor
  · intro always
    by_contra leftover
    obtain ⟨more, last, continued, broken⟩ :=
      leftover_misdelivered (connections_numbered_run run) running delivered leftover
    exact broken (always more last continued)
  · intro quiet more last continued
    have taken : peripheralStep loop (.notify delivered) = some (loop.subscribe delivered) := by
      simp [peripheralStep, running, free]
    have allowed : quietNotify loop (.notify delivered) := fun _ => quiet
    obtain ⟨subscriber, later⟩ :=
      serves_one_run (serves_one_step serves allowed taken) continued
    exact later.isolated

/-- Two subscribers, the second after the first connection has replied and was dropped;
with `early` the reply is taken only after the second subscriber. -/
def twoSubscribers (early : Bool) : List PeripheralLabel :=
  if early then
    [.notify true, .write (some [1]), .reply 0 [2], .drop 0, .notify true, .takeReply true]
  else
    [.notify true, .write (some [1]), .reply 0 [2], .takeReply true, .drop 0, .notify true,
      .reply 1 [3], .takeReply true]

theorem reply_isolation_in_turn :
    ∃ loop, Run peripheralStep quietNotify .new (twoSubscribers false) loop ∧
      loop.handed = [⟨0, ⟨0, [2]⟩⟩, ⟨1, ⟨1, [3]⟩⟩] ∧ RepliesIsolated loop := by
  have finished : ((execute (fun loop label =>
      if quietNotify loop label then peripheralStep loop label else none)
        .new (twoSubscribers false)).map fun loop => loop.handed) =
      some [⟨0, ⟨0, [2]⟩⟩, ⟨1, ⟨1, [3]⟩⟩] := by
    decide +kernel
  obtain ⟨loop, reached, found⟩ := Option.map_eq_some_iff.mp finished
  have run := run_of_execute_guarded reached
  exact ⟨loop, run, found, (reply_isolation_iff run).1⟩

/-- The reply of the first connection is written to the second subscriber. -/
theorem reply_given_to_next_subscriber :
    ∃ loop, Run peripheralStep anyStep .new (twoSubscribers true) loop ∧
      loop.handed = [⟨1, ⟨0, [2]⟩⟩] ∧ ¬ RepliesIsolated loop := by
  have finished : ((execute peripheralStep .new (twoSubscribers true)).map fun loop =>
      loop.handed) = some [⟨1, ⟨0, [2]⟩⟩] := by
    decide +kernel
  obtain ⟨loop, reached, found⟩ := Option.map_eq_some_iff.mp finished
  refine ⟨loop, run_of_execute reached, found, ?_⟩
  intro isolated
  have same := isolated ⟨1, ⟨0, [2]⟩⟩ (by simp [found])
  cases same

end Pathweave
