import Pathweave.ByteStrings
import Pathweave.GuardedRuns

/-!
# Length-prefixed frames on a byte stream

`QuicConnection` and `WifiDirectConnection` put four bytes of length before every frame
and receive with two `read_exact` calls, one for the length and one for the frame. Both
keep what they have read in a buffer of the `recv_bytes` future. The bytes arrive in
chunks of any size, and the future may be dropped between any two reads, as a timeout
around it does: what its buffers hold is then gone from the stream.
-/

namespace Pathweave

open ByteStrings GuardedRuns

set_option autoImplicit false

/-- What `send_bytes` writes. The length is truncated to 32 bits. -/
def lengthPrefixed (bytes : Bytes) : Bytes := encodeBE 4 bytes.length ++ bytes

/-- Where a `recv_bytes` future stands: in the first `read_exact` or in the second. A full
buffer ends its read, so the buffers here have room. -/
inductive RecvPhase where
  | header (filled : Bytes) (room : filled.length < 4)
  | body (length : Octets 4) (filled : Bytes) (room : filled.length < decodeBE length.val)
  deriving DecidableEq

def RecvPhase.taken : RecvPhase → Bytes
  | .header filled _ => filled
  | .body length filled _ => length.val ++ filled

def RecvPhase.needed : RecvPhase → Nat
  | .header filled _ => 4 - filled.length
  | .body length filled _ => decodeBE length.val - filled.length

inductive RecvProgress where
  | waiting (phase : RecvPhase)
  | complete (frame : Bytes)
  deriving DecidableEq

/-- The second read starts when the first is full; an empty frame needs none. -/
def RecvPhase.begin (length : Octets 4) : RecvProgress :=
  if room : ([] : Bytes).length < decodeBE length.val then .waiting (.body length [] room)
  else .complete []

/-- The bytes that one read takes, up to the room there is. -/
def RecvPhase.fill : RecvPhase → Bytes → RecvProgress
  | .header filled _, bytes =>
      if room : (filled ++ bytes).length < 4 then .waiting (.header (filled ++ bytes) room)
      else RecvPhase.begin (octetsAt (filled ++ bytes) 0 4 (Nat.le_of_not_lt room))
  | .body length filled _, bytes =>
      if room : (filled ++ bytes).length < decodeBE length.val then
        .waiting (.body length (filled ++ bytes) room)
      else .complete (filled ++ bytes)

/-- One direction of a connection, seen from the receiver. -/
structure StreamState where
  /-- Written by the sender and not arrived yet. -/
  incoming : Bytes
  /-- Arrived and not read yet. -/
  arrived : Bytes
  /-- The end of the stream has arrived. -/
  finished : Bool
  /-- The `recv_bytes` future, while there is one. -/
  future : Option RecvPhase
  /-- The frames that calls have returned. -/
  returned : List Bytes
  deriving DecidableEq

def StreamState.start (written : Bytes) : StreamState where
  incoming := written
  arrived := []
  finished := false
  future := none
  returned := []

inductive StreamLabel where
  /-- The next chunk arrives. -/
  | deliver (count : Nat)
  | finish
  | call
  /-- The future is polled and takes this many bytes. -/
  | read (count : Nat)
  /-- The stream ends inside a read, and the call returns an error. -/
  | fail
  /-- The future is dropped. -/
  | cancel
  deriving DecidableEq

def emptyHeader : RecvPhase := .header [] (by decide)

def streamRead (state : StreamState) (phase : RecvPhase) (count : Nat) : StreamState :=
  match phase.fill (state.arrived.take count) with
  | .waiting next =>
      { state with arrived := state.arrived.drop count, future := some next }
  | .complete frame =>
      { state with
        arrived := state.arrived.drop count
        future := none
        returned := state.returned ++ [frame] }

def streamStep (state : StreamState) : StreamLabel → Option StreamState
  | .deliver count =>
      if count ≤ state.incoming.length then
        some { state with
          incoming := state.incoming.drop count
          arrived := state.arrived ++ state.incoming.take count }
      else none
  | .finish => if state.incoming = [] then some { state with finished := true } else none
  | .call =>
      match state.future with
      | some _ => none
      | none => some { state with future := some emptyHeader }
  | .read count =>
      match state.future with
      | some phase =>
          if count ≤ phase.needed ∧ count ≤ state.arrived.length then
            some (streamRead state phase count)
          else none
      | none => none
  | .fail =>
      match state.future with
      | some _ =>
          if state.finished ∧ state.arrived = [] then some { state with future := none } else none
      | none => none
  | .cancel =>
      match state.future with
      | some _ => some { state with future := none }
      | none => none

/-! ## What a step does -/

def StreamState.taken (state : StreamState) : Bytes :=
  match state.future with
  | some phase => phase.taken
  | none => []

def StreamState.unreturned (state : StreamState) : Bytes :=
  state.taken ++ (state.arrived ++ state.incoming)

inductive ConnectionMove (state : StreamState) : StreamLabel → StreamState → Prop where
  | delivered {count : Nat} (inside : count ≤ state.incoming.length) :
      ConnectionMove state (.deliver count)
        { state with
          incoming := state.incoming.drop count
          arrived := state.arrived ++ state.incoming.take count }
  | finished (nothing : state.incoming = []) :
      ConnectionMove state .finish { state with finished := true }
  | called (idle : state.future = none) :
      ConnectionMove state .call { state with future := some emptyHeader }
  | read {count : Nat} {phase : RecvPhase} (held : state.future = some phase)
      (fits : count ≤ phase.needed) (inside : count ≤ state.arrived.length) :
      ConnectionMove state (.read count) (streamRead state phase count)
  | failed {phase : RecvPhase} (held : state.future = some phase)
      (ended : state.finished = true ∧ state.arrived = []) :
      ConnectionMove state .fail { state with future := none }
  | cancelled {phase : RecvPhase} (held : state.future = some phase) :
      ConnectionMove state .cancel { state with future := none }

theorem stream_step_moves {state next : StreamState} {label : StreamLabel}
    (taken : streamStep state label = some next) : ConnectionMove state label next := by
  cases label with
  | deliver count =>
      simp only [streamStep, Option.ite_none_right_eq_some, Option.some.injEq] at taken
      obtain ⟨inside, rfl⟩ := taken
      exact .delivered inside
  | finish =>
      simp only [streamStep, Option.ite_none_right_eq_some, Option.some.injEq] at taken
      obtain ⟨nothing, rfl⟩ := taken
      exact .finished nothing
  | call =>
      cases held : state.future with
      | some phase => simp [streamStep, held] at taken
      | none =>
          simp only [streamStep, held, Option.some.injEq] at taken
          subst taken
          exact .called held
  | read count =>
      cases held : state.future with
      | none => simp [streamStep, held] at taken
      | some phase =>
          simp only [streamStep, held, Option.ite_none_right_eq_some, Option.some.injEq] at taken
          obtain ⟨⟨fits, inside⟩, rfl⟩ := taken
          exact .read held fits inside
  | fail =>
      cases held : state.future with
      | none => simp [streamStep, held] at taken
      | some phase =>
          simp only [streamStep, held, Option.ite_none_right_eq_some, Option.some.injEq] at taken
          obtain ⟨ended, rfl⟩ := taken
          exact .failed held ended
  | cancel =>
      cases held : state.future with
      | none => simp [streamStep, held] at taken
      | some phase =>
          simp only [streamStep, held, Option.some.injEq] at taken
          subst taken
          exact .cancelled held

/-- A step moves bytes towards the receiver, returns the frame that the next bytes hold,
or drops what a future has taken. -/
inductive ConnectionEffect (state : StreamState) (label : StreamLabel) (next : StreamState) :
    Prop where
  | kept (returned : next.returned = state.returned) (same : next.unreturned = state.unreturned)
      (other : label ≠ .cancel)
  | frame (length : Octets 4) (frame : Bytes) (exact : decodeBE length.val = frame.length)
      (returned : next.returned = state.returned ++ [frame])
      (split : state.unreturned = length.val ++ (frame ++ next.unreturned))
      (other : label ≠ .cancel)
  | dropped (phase : RecvPhase) (held : state.future = some phase)
      (cause : label = .cancel ∨ state.finished = true ∧ state.arrived = [])
      (result : next = { state with future := none })

theorem fill_waiting {phase next : RecvPhase} {bytes : Bytes} (fits : bytes.length ≤ phase.needed)
    (filled : phase.fill bytes = .waiting next) : next.taken = phase.taken ++ bytes := by
  cases phase with
  | header front room =>
      simp only [RecvPhase.needed] at fits
      simp only [RecvPhase.fill] at filled
      split_ifs at filled with short
      · cases filled
        rfl
      · have exact : (front ++ bytes).length = 4 := by
          rw [List.length_append] at short ⊢
          omega
        unfold RecvPhase.begin at filled
        split_ifs at filled
        cases filled
        simp only [RecvPhase.taken, octetsAt, List.drop_zero, List.append_nil]
        exact List.take_of_length_le (Nat.le_of_eq exact)
  | body length front room =>
      simp only [RecvPhase.fill] at filled
      split_ifs at filled
      cases filled
      simp only [RecvPhase.taken, List.append_assoc]

theorem fill_complete {phase : RecvPhase} {bytes frame : Bytes} (fits : bytes.length ≤ phase.needed)
    (filled : phase.fill bytes = .complete frame) :
    ∃ length : Octets 4, decodeBE length.val = frame.length ∧
      phase.taken ++ bytes = length.val ++ frame := by
  cases phase with
  | header front room =>
      simp only [RecvPhase.needed] at fits
      simp only [RecvPhase.fill] at filled
      split_ifs at filled with short
      have exact : (front ++ bytes).length = 4 := by
        rw [List.length_append] at short ⊢
        omega
      unfold RecvPhase.begin at filled
      split_ifs at filled with room
      cases filled
      refine ⟨octetsAt (front ++ bytes) 0 4 (Nat.le_of_not_lt short), ?_, ?_⟩
      · rw [List.length_nil] at room ⊢
        omega
      · simp only [RecvPhase.taken, octetsAt, List.drop_zero, List.append_nil]
        exact (List.take_of_length_le (Nat.le_of_eq exact)).symm
  | body length front room =>
      simp only [RecvPhase.needed] at fits
      simp only [RecvPhase.fill] at filled
      split_ifs at filled with short
      cases filled
      refine ⟨length, ?_, ?_⟩
      · rw [List.length_append] at short ⊢
        omega
      · simp only [RecvPhase.taken, List.append_assoc]

theorem stream_read_effect {state : StreamState} {phase : RecvPhase} {count : Nat}
    (held : state.future = some phase) (fits : count ≤ phase.needed)
    (inside : count ≤ state.arrived.length) :
    ConnectionEffect state (.read count) (streamRead state phase count) := by
  have size : (state.arrived.take count).length ≤ phase.needed := by
    rw [List.length_take]
    omega
  have cut : state.unreturned = phase.taken ++ state.arrived.take count ++
      (state.arrived.drop count ++ state.incoming) := by
    rw [StreamState.unreturned, StreamState.taken, held, List.append_assoc,
      ← List.append_assoc (state.arrived.take count), List.take_append_drop]
  unfold streamRead
  split
  · next next filled =>
      refine .kept rfl ?_ (by simp)
      rw [cut, ← fill_waiting size filled]
      rfl
  · next frame filled =>
      obtain ⟨length, exact, front⟩ := fill_complete size filled
      refine .frame length frame exact rfl ?_ (by simp)
      rw [cut, front, List.append_assoc]
      rfl

theorem stream_step_effect {state next : StreamState} {label : StreamLabel}
    (taken : streamStep state label = some next) : ConnectionEffect state label next := by
  cases stream_step_moves taken with
  | delivered inside =>
      refine .kept rfl ?_ (by simp)
      simp only [StreamState.unreturned, List.append_assoc, List.take_append_drop]
      rfl
  | finished nothing => exact .kept rfl rfl (by simp)
  | called idle =>
      refine .kept rfl ?_ (by simp)
      simp only [StreamState.unreturned, StreamState.taken, idle]
      rfl
  | read held fits inside => exact stream_read_effect held fits inside
  | @failed phase held ended => exact .dropped phase held (.inr ended) rfl
  | @cancelled phase held => exact .dropped phase held (.inl rfl) rfl

theorem ended_step {state next : StreamState} {label : StreamLabel}
    (ended : state.finished = true → state.incoming = [])
    (taken : streamStep state label = some next) : next.finished = true → next.incoming = [] := by
  cases stream_step_moves taken with
  | delivered inside =>
      intro closed
      simp [ended closed]
  | finished nothing => exact fun _ => nothing
  | read held fits inside =>
      unfold streamRead
      split <;> exact ended
  | _ => exact ended

/-! ## Frames stay whole as long as no taken byte is dropped -/

/-- The calls so far have returned the first frames in order, and the bytes of the others
are all still there. -/
def InStep (frames : List Bytes) (state : StreamState) : Prop :=
  ∃ rest, frames = state.returned ++ rest ∧ state.unreturned = rest.flatMap lengthPrefixed

/-- A future is dropped only before it has taken a byte. -/
def dropsNothing (state : StreamState) (label : StreamLabel) : Prop :=
  label = .cancel → state.taken = []

instance (state : StreamState) (label : StreamLabel) : Decidable (dropsNothing state label) :=
  inferInstanceAs (Decidable (_ → _))

section Frames

variable {frames : List Bytes}

theorem first_frame {length : Octets 4} {tail frame : Bytes} {rest : List Bytes}
    (short : frame.length < 2 ^ 32)
    (split : length.val ++ tail = (frame :: rest).flatMap lengthPrefixed) :
    decodeBE length.val = frame.length ∧ tail = frame ++ rest.flatMap lengthPrefixed := by
  rw [List.flatMap_cons, lengthPrefixed, List.append_assoc] at split
  obtain ⟨same, others⟩ := List.append_inj split (by rw [length.property, encodeBE_length])
  have fits : frame.length < 256 ^ 4 := short
  rw [same, decodeBE_encodeBE, Nat.mod_eq_of_lt fits]
  exact ⟨rfl, others⟩

theorem in_step_frame {state next : StreamState} {length : Octets 4} {frame : Bytes}
    (short : ∀ frame ∈ frames, frame.length < 2 ^ 32) (held : InStep frames state)
    (exact : decodeBE length.val = frame.length)
    (returned : next.returned = state.returned ++ [frame])
    (split : state.unreturned = length.val ++ (frame ++ next.unreturned)) :
    InStep frames next := by
  obtain ⟨rest, all, left⟩ := held
  rw [split] at left
  cases rest with
  | nil =>
      have none : (length.val ++ (frame ++ next.unreturned)).length = 0 := by rw [left]; rfl
      rw [List.length_append, length.property] at none
      omega
  | cons first later =>
      have listed : first ∈ frames := by simp [all]
      obtain ⟨size, tail⟩ := first_frame (short first listed) left
      obtain ⟨same, others⟩ := List.append_inj tail (exact.symm.trans size)
      subst same
      exact ⟨later, by rw [all, returned, List.append_assoc, List.singleton_append], others⟩

theorem in_step_ended {state : StreamState} {phase : RecvPhase}
    (short : ∀ frame ∈ frames, frame.length < 2 ^ 32) (held : InStep frames state)
    (future : state.future = some phase) (nothing : state.arrived ++ state.incoming = []) :
    phase.taken = [] := by
  obtain ⟨rest, all, left⟩ := held
  rw [StreamState.unreturned, StreamState.taken, future, nothing, List.append_nil] at left
  cases rest with
  | nil => exact left
  | cons first later =>
      have listed : first ∈ frames := by simp [all]
      cases phase with
      | header filled room =>
          have size := congrArg List.length left
          simp only [RecvPhase.taken, List.flatMap_cons, lengthPrefixed, List.length_append,
            encodeBE_length] at size
          omega
      | body length filled room =>
          obtain ⟨size, tail⟩ := first_frame (short first listed) left
          have long := congrArg List.length tail
          rw [List.length_append] at long
          omega

theorem unreturned_dropped {state : StreamState} (nothing : state.taken = []) :
    StreamState.unreturned { state with future := none } = state.unreturned := by
  rw [StreamState.unreturned, StreamState.unreturned, nothing]
  rfl

theorem in_step_step {state next : StreamState} {label : StreamLabel}
    (short : ∀ frame ∈ frames, frame.length < 2 ^ 32)
    (held : InStep frames state ∧ (state.finished = true → state.incoming = []))
    (allowed : dropsNothing state label) (taken : streamStep state label = some next) :
    InStep frames next ∧ (next.finished = true → next.incoming = []) := by
  refine ⟨?_, ended_step held.2 taken⟩
  cases stream_step_effect taken with
  | kept returned same _ =>
      obtain ⟨rest, all, left⟩ := held.1
      exact ⟨rest, by rw [returned, all], by rw [same, left]⟩
  | frame length frame exact returned split _ =>
      exact in_step_frame short held.1 exact returned split
  | dropped phase future cause result =>
      have nothing : state.taken = [] := by
        rcases cause with cancelled | ⟨ended, read⟩
        · exact allowed cancelled
        · rw [StreamState.taken, future]
          exact in_step_ended short held.1 future (by rw [read, held.2 ended]; rfl)
      obtain ⟨rest, all, left⟩ := held.1
      subst result
      exact ⟨rest, all, by rw [unreturned_dropped nothing, left]⟩

/-! ## Bytes are lost exactly by dropping them -/

/-- The bytes that calls have returned or can still return, with their lengths. -/
def StreamState.accounted (state : StreamState) : Nat :=
  (state.returned.flatMap lengthPrefixed).length + state.unreturned.length

theorem stream_accounted_step {state next : StreamState} {label : StreamLabel}
    (taken : streamStep state label = some next) :
    next.accounted ≤ state.accounted ∧
      (next.accounted = state.accounted → dropsNothing state label) := by
  cases stream_step_effect taken with
  | kept returned same other =>
      rw [StreamState.accounted, StreamState.accounted, returned, same]
      exact ⟨Nat.le_refl _, fun _ cancelled => absurd cancelled other⟩
  | frame length frame exact returned split other =>
      have kept : next.accounted = state.accounted := by
        have lengthSize := length.property
        rw [StreamState.accounted, StreamState.accounted, returned, split]
        simp only [lengthPrefixed, List.flatMap_append, List.flatMap_cons, List.flatMap_nil,
          List.length_append, List.append_nil, encodeBE_length]
        omega
      exact ⟨Nat.le_of_eq kept, fun _ cancelled => absurd cancelled other⟩
  | dropped phase future cause result =>
      subst result
      have size : StreamState.accounted { state with future := none } + state.taken.length =
          state.accounted := by
        simp only [StreamState.accounted, StreamState.unreturned, List.length_append]
        simp only [StreamState.taken, List.length_nil]
        omega
      refine ⟨by omega, fun same _ => ?_⟩
      exact List.length_eq_zero_iff.mp (by omega)

theorem in_step_accounted {state : StreamState} (held : InStep frames state) :
    state.accounted = (frames.flatMap lengthPrefixed).length := by
  obtain ⟨rest, all, left⟩ := held
  rw [StreamState.accounted, left, all, List.flatMap_append, List.length_append]

theorem run_accounted {first state : StreamState} {labels : List StreamLabel}
    (run : Run streamStep anyStep first labels state) :
    state.accounted ≤ first.accounted ∧
      (state.accounted = first.accounted → Run streamStep dropsNothing first labels state) := by
  induction run with
  | start => exact ⟨Nat.le_refl _, fun _ => .start⟩
  | extend prior _ taken ih =>
      obtain ⟨less, guarded⟩ := stream_accounted_step taken
      refine ⟨less.trans ih.1, fun same => ?_⟩
      exact .extend (ih.2 (by omega)) (guarded (by omega)) taken

/-- For every sequence of frames, every way their bytes arrive and every run of calls, polls
and drops: the completed calls have returned the first frames in order and the bytes of the
others are all still to be read, if and only if no future was dropped after it had taken a
byte from the stream. -/
theorem recv_in_step_iff (short : ∀ frame ∈ frames, frame.length < 2 ^ 32)
    {labels : List StreamLabel} {state : StreamState}
    (run : Run streamStep anyStep (.start (frames.flatMap lengthPrefixed)) labels state) :
    InStep frames state ↔
      Run streamStep dropsNothing (.start (frames.flatMap lengthPrefixed)) labels state := by
  have initial : InStep frames (.start (frames.flatMap lengthPrefixed)) := ⟨frames, rfl, rfl⟩
  constructor
  · intro held
    apply (run_accounted run).2
    rw [in_step_accounted held, in_step_accounted initial]
  · intro guarded
    have kept := run_invariant
      (fun state => InStep frames state ∧ (state.finished = true → state.incoming = []))
      (fun _ _ _ held allowed taken => in_step_step short held allowed taken) guarded
      ⟨initial, fun impossible => absurd impossible Bool.false_ne_true⟩
    exact kept.1

theorem in_step_drained {state : StreamState} (held : InStep frames state)
    (drained : state.unreturned = []) : state.returned = frames := by
  obtain ⟨rest, all, left⟩ := held
  cases rest with
  | nil => rw [all, List.append_nil]
  | cons first later =>
      have size := congrArg List.length (left.symm.trans drained)
      simp only [List.flatMap_cons, lengthPrefixed, List.length_append, encodeBE_length,
        List.length_nil] at size
      omega

end Frames

/-! ## A wait that is given up -/

def replyAndAck : List Bytes := [[0, 0, 0, 1, 9], [7]]

/-- The first wait is given up before anything has arrived, the second call gets the reply
in three chunks. -/
def patientReceive : List StreamLabel :=
  [.call, .cancel, .deliver 3, .call, .read 3, .deliver 4, .read 1, .read 3, .deliver 7, .read 2,
    .call, .read 4, .read 1, .finish]

theorem recv_in_step_patient :
    ∃ state, execute streamStep (.start (replyAndAck.flatMap lengthPrefixed)) patientReceive =
        some state ∧ state.returned = replyAndAck ∧ InStep replyAndAck state := by
  obtain ⟨state, reached, returned⟩ : ∃ state,
      execute streamStep (.start (replyAndAck.flatMap lengthPrefixed)) patientReceive =
        some state ∧ state.returned = replyAndAck :=
    ⟨_, rfl, by decide⟩
  have guarded : Run streamStep dropsNothing (.start (replyAndAck.flatMap lengthPrefixed))
      patientReceive state := by
    apply run_of_execute_guarded
    rw [← reached]
    decide +kernel
  exact ⟨state, reached, returned,
    (recv_in_step_iff (by decide) (run_of_execute reached)).mpr guarded⟩

/-- The length of the reply arrives, then the wait for it times out. The next call takes the
first bytes of the reply for the length of the acknowledgement. -/
def abandonedReceive : List StreamLabel :=
  [.deliver 4, .call, .read 4, .cancel, .deliver 10, .call, .read 4, .read 1]

theorem abandoned_wait_desynchronises :
    ∃ state, Run streamStep anyStep (.start (replyAndAck.flatMap lengthPrefixed)) abandonedReceive
        state ∧
      state.returned = [[9]] ∧ ¬ state.returned <+: replyAndAck ∧ ¬ InStep replyAndAck state := by
  obtain ⟨state, reached, returned⟩ : ∃ state,
      execute streamStep (.start (replyAndAck.flatMap lengthPrefixed)) abandonedReceive =
        some state ∧ state.returned = [[9]] :=
    ⟨_, rfl, by decide⟩
  have apart : ¬ state.returned <+: replyAndAck := by
    rw [returned]
    decide
  refine ⟨state, run_of_execute reached, returned, apart, ?_⟩
  intro held
  obtain ⟨rest, all, -⟩ := held
  exact apart ⟨rest, all.symm⟩

end Pathweave
