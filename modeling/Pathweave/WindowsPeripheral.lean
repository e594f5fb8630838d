import Mathlib.Data.Finset.Basic
import Pathweave.ByteStrings
import Pathweave.GuardedRuns

/-!
# Subscribers of the BLE peripheral on Windows

The handler of the subscription event signals every change that leaves a client
subscribed, and cuts off the present connection when the last client is gone. The
holder of that connection notices and drops it in its own time. Until then the inner
loop of `windows_peripheral_task` runs on and swallows the signals it receives, that of
the next client included. A connection that is cut off before it is sent to `accept` has
the same end: the client that comes in between gets nothing from it.
-/

namespace Pathweave

open ByteStrings GuardedRuns

set_option autoImplicit false

/-! ## The task, the handlers and the holder -/

/-- Where `windows_peripheral_task` is: in the outer wait, on the way from a signal to a
connection, in the inner loop, and behind each of the loops. -/
inductive WindowsPhase where
  | waiting
  | opening
  | sending
  | serving
  | clearing
  | stopping
  | stopped
  deriving DecidableEq

/-- Connections and clients are numbered, and `alive` is about the connection of the inner
loop. Two fields are history: `made` has for each connection the clients whose writes it
takes when it is created, `newcomers` the clients that found nobody else subscribed. -/
structure WindowsPeripheral where
  phase : WindowsPhase
  writeForward : Option Nat
  signals : Nat
  clients : Finset Nat
  subscriptions : Nat
  alive : Bool
  replies : List Bytes
  forwarded : List (Nat × Bytes)
  notified : List Bytes
  made : List (Finset Nat)
  newcomers : Finset Nat

namespace WindowsPeripheral

def new : WindowsPeripheral where
  phase := .waiting
  writeForward := none
  signals := 0
  clients := ∅
  subscriptions := 0
  alive := false
  replies := []
  forwarded := []
  notified := []
  made := []
  newcomers := ∅

variable (state : WindowsPeripheral)

def subscribe : WindowsPeripheral :=
  { state with
    signals := state.signals + 1
    clients := insert state.subscriptions state.clients
    subscriptions := state.subscriptions + 1
    newcomers :=
      if state.clients = ∅ then insert state.subscriptions state.newcomers
      else state.newcomers }

/-- The handler after a client has gone. Clients that remain are signalled again. -/
def unsubscribe (client : Nat) : WindowsPeripheral :=
  { state with
    signals := if state.clients.erase client = ∅ then state.signals else state.signals + 1
    writeForward := if state.clients.erase client = ∅ then none else state.writeForward
    clients := state.clients.erase client }

/-- The connection is sent to `accept`. Its write channel may have been closed since it was
put into `write_forward`: then it takes the writes of nobody. -/
def create (delivered : Bool) : WindowsPeripheral :=
  { state with
    phase := .serving
    made := state.made ++
      [if state.writeForward = some state.made.length then state.clients else ∅]
    alive := delivered
    replies := [] }

end WindowsPeripheral

/-- `create` says whether the connection can still be sent to `accept`, `notify` whether
the notification is sent. -/
inductive WindowsLabel where
  | subscribe
  | unsubscribe (client : Nat)
  | write (bytes : Bytes)
  | reply (bytes : Bytes)
  | release
  | takeSignal
  | setForward
  | create (delivered : Bool)
  | notify (sent : Bool)
  | ignoreSignal
  | leave
  | clear
  | stopSignal
  | finish
  deriving DecidableEq

def WindowsLabel.ofTask : WindowsLabel → Bool
  | .takeSignal | .setForward | .create _ | .notify _ | .ignoreSignal | .leave | .clear
  | .finish => true
  | _ => false

def outsideStep (state : WindowsPeripheral) : WindowsLabel → Option WindowsPeripheral
  | .subscribe => some state.subscribe
  | .unsubscribe client =>
      if client ∈ state.clients then some (state.unsubscribe client) else none
  | .write bytes =>
      match state.writeForward with
      | some connection =>
          some { state with forwarded := state.forwarded ++ [(connection, bytes)] }
      | none => some state
  | .reply bytes =>
      if state.alive then some { state with replies := state.replies ++ [bytes] } else none
  | .release => if state.alive then some { state with alive := false } else none
  | _ => none

/-- The steps of the task. The inner loop is left when the connection was dropped and its
replies are taken. -/
def taskStep (state : WindowsPeripheral) : WindowsLabel → WindowsPhase → Option WindowsPeripheral
  | .takeSignal, .waiting =>
      if 0 < state.signals then
        some { state with phase := .opening, signals := state.signals - 1 }
      else none
  | .setForward, .opening =>
      some { state with phase := .sending, writeForward := some state.made.length }
  | .create delivered, .sending => some (state.create delivered)
  | .notify sent, .serving =>
      match state.replies with
      | bytes :: rest =>
          some { state with
            replies := rest
            notified := if sent then state.notified ++ [bytes] else state.notified }
      | [] => none
  | .ignoreSignal, .serving =>
      if 0 < state.signals then some { state with signals := state.signals - 1 } else none
  | .leave, .serving =>
      if state.replies = [] ∧ state.alive = false then some { state with phase := .clearing }
      else none
  | .clear, .clearing => some { state with phase := .waiting, writeForward := none }
  | .stopSignal, .waiting | .stopSignal, .serving => some { state with phase := .stopping }
  | .finish, .stopping => some { state with phase := .stopped, writeForward := none }
  | _, _ => none

def windowsStep (state : WindowsPeripheral) (label : WindowsLabel) : Option WindowsPeripheral :=
  (outsideStep state label).or (taskStep state label state.phase)

/-! ## What a step does -/

inductive WindowsMove (state : WindowsPeripheral) : WindowsLabel → WindowsPeripheral → Prop where
  | subscribed : WindowsMove state .subscribe state.subscribe
  | unsubscribed {client : Nat} :
      WindowsMove state (.unsubscribe client) (state.unsubscribe client)
  | wrote {bytes : Bytes} {forwarded : List (Nat × Bytes)} :
      WindowsMove state (.write bytes) { state with forwarded := forwarded }
  | replied {bytes : Bytes} :
      WindowsMove state (.reply bytes) { state with replies := state.replies ++ [bytes] }
  | released : WindowsMove state .release { state with alive := false }
  | tookSignal (waiting : state.phase = .waiting) :
      WindowsMove state .takeSignal
        { state with phase := .opening, signals := state.signals - 1 }
  | setForward (opening : state.phase = .opening) :
      WindowsMove state .setForward
        { state with phase := .sending, writeForward := some state.made.length }
  | created {delivered : Bool} (sending : state.phase = .sending) :
      WindowsMove state (.create delivered) (state.create delivered)
  | notified {sent : Bool} {rest notified : List Bytes} (serving : state.phase = .serving) :
      WindowsMove state (.notify sent) { state with replies := rest, notified := notified }
  | ignored (serving : state.phase = .serving) :
      WindowsMove state .ignoreSignal { state with signals := state.signals - 1 }
  | left (serving : state.phase = .serving) :
      WindowsMove state .leave { state with phase := .clearing }
  | cleared (clearing : state.phase = .clearing) :
      WindowsMove state .clear { state with phase := .waiting, writeForward := none }
  | stopping : WindowsMove state .stopSignal { state with phase := .stopping }
  | finished : WindowsMove state .finish { state with phase := .stopped, writeForward := none }

theorem outside_step_moves {state next : WindowsPeripheral} {label : WindowsLabel}
    (taken : outsideStep state label = some next) : WindowsMove state label next := by
  cases label with
  | subscribe =>
      cases taken
      exact .subscribed
  | unsubscribe client =>
      simp only [outsideStep] at taken
      split_ifs at taken
      cases taken
      exact .unsubscribed
  | write bytes =>
      simp only [outsideStep] at taken
      split at taken
      · cases taken
        exact .wrote
      · cases taken
        exact .wrote
  | reply bytes =>
      simp only [outsideStep] at taken
      split_ifs at taken
      cases taken
      exact .replied
  | release =>
      simp only [outsideStep] at taken
      split_ifs at taken
      cases taken
      exact .released
  | _ => cases taken

theorem task_step_moves {state next : WindowsPeripheral} {label : WindowsLabel}
    (taken : taskStep state label state.phase = some next) : WindowsMove state label next := by
  unfold taskStep at taken
  split at taken
  · next waiting =>
      split_ifs at taken
      cases taken
      exact .tookSignal waiting
  · next opening =>
      cases taken
      exact .setForward opening
  · next sending =>
      cases taken
      exact .created sending
  · next serving =>
      split at taken
      · cases taken
        exact .notified serving
      · cases taken
  · next serving =>
      split_ifs at taken
      cases taken
      exact .ignored serving
  · next serving =>
      split_ifs at taken
      cases taken
      exact .left serving
  · next clearing =>
      cases taken
      exact .cleared clearing
  · cases taken
    exact .stopping
  · cases taken
    exact .stopping
  · cases taken
    exact .finished
  · cases taken

theorem windows_step_moves {state next : WindowsPeripheral} {label : WindowsLabel}
    (taken : windowsStep state label = some next) : WindowsMove state label next := by
  rcases Option.or_eq_some_iff.mp taken with outside | ⟨_, task⟩
  · exact outside_step_moves outside
  · exact task_step_moves task

/-! ## A client that waits for ever -/

/-- The client came after the one before it had gone, and no connection was made for it. -/
def Unserved (state : WindowsPeripheral) (client : Nat) : Prop :=
  client ∈ state.clients ∧ client ∈ state.newcomers ∧ ∀ users ∈ state.made, client ∉ users

/-- Nothing is left to do for the task, the old connection was dropped, and a client is
subscribed for which no connection was created. -/
structure StrandedClient (state : WindowsPeripheral) : Prop where
  quiescent : ∀ label, label.ofTask = true → windowsStep state label = none
  dropped : state.alive = false
  running : state.phase ≠ .stopped
  unserved : ∃ client, Unserved state client

/-- The connection of the task is of no use to a client that comes now: it has been sent
to `accept`, or it was cut off on the way there. -/
def connectionSpent (writeForward : Option Nat) : WindowsPhase → Prop
  | .serving => True
  | .sending => writeForward = none
  | _ => False

instance (writeForward : Option Nat) (phase : WindowsPhase) :
    Decidable (connectionSpent writeForward phase) :=
  match phase with
  | .serving => .isTrue trivial
  | .sending => inferInstanceAs (Decidable (writeForward = none))
  | .waiting | .opening | .clearing | .stopping | .stopped => .isFalse id

theorem connection_spent_iff {writeForward : Option Nat} {phase : WindowsPhase} :
    connectionSpent writeForward phase ↔
      phase = .serving ∨ phase = .sending ∧ writeForward = none := by
  cases phase <;> simp [connectionSpent]

/-- A client that finds nobody else subscribed comes neither while a connection is served
nor while one that was cut off is on its way to `accept`. -/
def subscribesOutside (state : WindowsPeripheral) : WindowsLabel → Prop
  | .subscribe => state.clients = ∅ → ¬ connectionSpent state.writeForward state.phase
  | _ => True

instance (state : WindowsPeripheral) (label : WindowsLabel) :
    Decidable (subscribesOutside state label) :=
  match label with
  | .subscribe => inferInstanceAs (Decidable (_ → _))
  | .unsubscribe _ | .write _ | .reply _ | .release | .takeSignal | .setForward | .create _
  | .notify _ | .ignoreSignal | .leave | .clear | .stopSignal | .finish => .isTrue trivial

def connectionAhead (state : WindowsPeripheral) : WindowsPhase → Prop
  | .opening | .stopping | .stopped => True
  | .sending => state.writeForward = some state.made.length
  | .waiting | .clearing => 0 < state.signals
  | .serving => False

/-- What holds along every run: the numbers of the clients are used up, and a connection on
its way to `accept` takes the writes or was cut off. -/
structure ClientsNumbered (state : WindowsPeripheral) : Prop where
  clients : ∀ client ∈ state.clients, client < state.subscriptions
  newcomers : ∀ client ∈ state.newcomers, client < state.subscriptions
  made : ∀ users ∈ state.made, ∀ client ∈ users, client < state.subscriptions
  sending : state.phase = .sending →
    state.writeForward = none ∨ state.writeForward = some state.made.length

def Promised (state : WindowsPeripheral) : Prop :=
  ∀ client, Unserved state client → connectionAhead state state.phase

theorem clients_numbered_new : ClientsNumbered .new where
  clients := fun _ member => absurd member (Finset.notMem_empty _)
  newcomers := fun _ member => absurd member (Finset.notMem_empty _)
  made := fun _ listed => absurd listed List.not_mem_nil
  sending := by rintro ⟨⟩

theorem clients_numbered_subscribe {state : WindowsPeripheral} (numbered : ClientsNumbered state) :
    ClientsNumbered state.subscribe := by
  have inserted : ∀ (clients : Finset Nat), (∀ client ∈ clients, client < state.subscriptions) →
      ∀ client ∈ insert state.subscriptions clients, client < state.subscriptions + 1 := by
    intro clients below client member
    rcases Finset.mem_insert.mp member with rfl | old
    · exact Nat.lt_succ_self _
    · exact Nat.lt_succ_of_lt (below client old)
  refine ⟨inserted _ numbered.clients, ?_, fun users listed client member =>
    Nat.lt_succ_of_lt (numbered.made users listed client member), numbered.sending⟩
  simp only [WindowsPeripheral.subscribe]
  split_ifs
  · exact inserted _ numbered.newcomers
  · exact fun client member => Nat.lt_succ_of_lt (numbered.newcomers client member)

theorem clients_numbered_unsubscribe {state : WindowsPeripheral} (numbered : ClientsNumbered state)
    (client : Nat) : ClientsNumbered (state.unsubscribe client) where
  clients := fun other member => numbered.clients other (Finset.mem_of_mem_erase member)
  newcomers := numbered.newcomers
  made := numbered.made
  sending := by
    intro sending
    simp only [WindowsPeripheral.unsubscribe]
    split_ifs
    · exact .inl rfl
    · exact numbered.sending sending

theorem clients_numbered_create {state : WindowsPeripheral} (numbered : ClientsNumbered state)
    (delivered : Bool) : ClientsNumbered (state.create delivered) where
  clients := numbered.clients
  newcomers := numbered.newcomers
  made := by
    intro users listed client member
    rcases List.mem_append.mp listed with old | new
    · exact numbered.made users old client member
    · obtain rfl := List.mem_singleton.mp new
      split_ifs at member
      · exact numbered.clients client member
      · exact absurd member (Finset.notMem_empty client)
  sending := by rintro ⟨⟩

theorem clients_numbered_step {state next : WindowsPeripheral} {label : WindowsLabel}
    (numbered : ClientsNumbered state) (taken : windowsStep state label = some next) :
    ClientsNumbered next := by
  obtain ⟨clients, newcomers, made, sending⟩ := id numbered
  cases windows_step_moves taken with
  | subscribed => exact clients_numbered_subscribe numbered
  | unsubscribed => exact clients_numbered_unsubscribe numbered _
  | created _ => exact clients_numbered_create numbered _
  | setForward _ => exact ⟨clients, newcomers, made, fun _ => .inr rfl⟩
  | wrote | replied | released => exact ⟨clients, newcomers, made, sending⟩
  | notified _ | ignored _ => exact ⟨clients, newcomers, made, sending⟩
  | tookSignal _ | left _ | cleared _ | stopping | finished =>
      exact ⟨clients, newcomers, made, by rintro ⟨⟩⟩

theorem clients_numbered_run {labels : List WindowsLabel} {state : WindowsPeripheral}
    {guard : WindowsPeripheral → WindowsLabel → Prop}
    (run : Run windowsStep guard .new labels state) : ClientsNumbered state :=
  run_invariant ClientsNumbered (fun _ _ _ numbered _ => clients_numbered_step numbered) run
    clients_numbered_new

theorem unserved_before_subscribe {state : WindowsPeripheral} {client : Nat}
    (numbered : ClientsNumbered state) (shared : state.clients ≠ ∅)
    (unserved : Unserved state.subscribe client) : Unserved state client := by
  obtain ⟨member, newcomer, unmade⟩ := unserved
  simp only [WindowsPeripheral.subscribe, shared, if_false] at newcomer
  rcases Finset.mem_insert.mp member with rfl | old
  · exact absurd (numbered.newcomers _ newcomer) (Nat.lt_irrefl _)
  · exact ⟨old, newcomer, unmade⟩

theorem ahead_subscribe {state : WindowsPeripheral} {phase : WindowsPhase}
    (ahead : connectionAhead state phase) : connectionAhead state.subscribe phase := by
  cases phase with
  | waiting | clearing => exact Nat.lt_succ_of_lt ahead
  | opening | sending | serving | stopping | stopped => exact ahead

theorem ahead_newcomer {state : WindowsPeripheral} (numbered : ClientsNumbered state)
    (useful : ¬ connectionSpent state.writeForward state.phase) :
    connectionAhead state.subscribe state.phase := by
  cases phase : state.phase with
  | sending =>
      rw [phase] at useful
      exact (numbered.sending phase).resolve_left useful
  | serving =>
      rw [phase] at useful
      exact absurd trivial useful
  | waiting | clearing => exact Nat.succ_pos _
  | opening | stopping | stopped => trivial

theorem ahead_unsubscribe {state : WindowsPeripheral} {client : Nat} {phase : WindowsPhase}
    (remains : state.clients.erase client ≠ ∅) (ahead : connectionAhead state phase) :
    connectionAhead (state.unsubscribe client) phase := by
  cases phase with
  | waiting | clearing =>
      simp only [connectionAhead, WindowsPeripheral.unsubscribe, remains, if_false]
      exact Nat.lt_succ_of_lt ahead
  | sending =>
      simp only [connectionAhead, WindowsPeripheral.unsubscribe, remains, if_false]
      exact ahead
  | opening | serving | stopping | stopped => exact ahead

theorem served_create {state : WindowsPeripheral} {client : Nat} {delivered : Bool}
    (forwards : state.writeForward = some state.made.length) :
    ¬ Unserved (state.create delivered) client := by
  rintro ⟨member, -, unmade⟩
  refine unmade state.clients ?_ member
  simp [WindowsPeripheral.create, forwards]

theorem promised_step {state next : WindowsPeripheral} {label : WindowsLabel}
    (numbered : ClientsNumbered state) (promised : Promised state)
    (allowed : subscribesOutside state label)
    (taken : windowsStep state label = some next) : Promised next := by
  cases windows_step_moves taken with
  | subscribed =>
      intro client unserved
      by_cases alone : state.clients = ∅
      · exact ahead_newcomer numbered (allowed alone)
      · exact ahead_subscribe
          (promised client (unserved_before_subscribe numbered alone unserved))
  | unsubscribed =>
      rintro client ⟨member, newcomer, unmade⟩
      have before : Unserved state client :=
        ⟨Finset.mem_of_mem_erase member, newcomer, unmade⟩
      exact ahead_unsubscribe (Finset.ne_empty_of_mem member) (promised client before)
  | wrote => exact promised
  | replied => exact promised
  | released => exact promised
  | tookSignal _ => exact fun _ _ => trivial
  | setForward _ => exact fun _ _ => rfl
  | created sending =>
      intro client unserved
      have before : Unserved state client := by
        obtain ⟨member, newcomer, unmade⟩ := unserved
        exact ⟨member, newcomer, fun users listed =>
          unmade users (List.mem_append_left _ listed)⟩
      have ahead := promised client before
      rw [sending] at ahead
      exact absurd unserved (served_create ahead)
  | notified _ => exact promised
  | ignored serving =>
      intro client unserved
      have ahead := promised client unserved
      rw [serving] at ahead
      exact absurd ahead id
  | left serving =>
      intro client unserved
      have ahead := promised client unserved
      rw [serving] at ahead
      exact absurd ahead id
  | cleared clearing =>
      intro client unserved
      have ahead := promised client unserved
      rw [clearing] at ahead
      exact ahead
  | stopping => exact fun _ _ => trivial
  | finished => exact fun _ _ => trivial

theorem promised_not_stranded {state : WindowsPeripheral} (promised : Promised state) :
    ¬ StrandedClient state := by
  intro stranded
  obtain ⟨client, unserved⟩ := stranded.unserved
  have ahead := promised client unserved
  have idle := stranded.quiescent
  cases phase : state.phase with
  | waiting =>
      rw [phase] at ahead
      have some : 0 < state.signals := ahead
      simpa [windowsStep, outsideStep, taskStep, phase, some] using idle .takeSignal rfl
  | opening => simpa [windowsStep, outsideStep, taskStep, phase] using idle .setForward rfl
  | sending => simpa [windowsStep, outsideStep, taskStep, phase] using idle (.create true) rfl
  | serving =>
      rw [phase] at ahead
      exact ahead
  | clearing => simpa [windowsStep, outsideStep, taskStep, phase] using idle .clear rfl
  | stopping => simpa [windowsStep, outsideStep, taskStep, phase] using idle .finish rfl
  | stopped => exact stranded.running phase

theorem promised_run {first last : WindowsPeripheral} {labels : List WindowsLabel}
    (numbered : ClientsNumbered first) (promised : Promised first)
    (run : Run windowsStep subscribesOutside first labels last) : Promised last :=
  (run_invariant (fun state => ClientsNumbered state ∧ Promised state)
    (fun _ _ _ both allowed taken =>
      ⟨clients_numbered_step both.1 taken, promised_step both.1 both.2 allowed taken⟩)
    run ⟨numbered, promised⟩).2

/-! ## The inner loop swallows signals -/

theorem signals_swallowed {state : WindowsPeripheral} (serving : state.phase = .serving) :
    ∃ labels, Run windowsStep subscribesOutside state labels { state with signals := 0 } := by
  generalize counted : state.signals = count
  induction count generalizing state with
  | zero =>
      refine ⟨[], ?_⟩
      rw [← counted]
      exact .start
  | succ count induction =>
      have taken : windowsStep state .ignoreSignal = some { state with signals := count } := by
        simp [windowsStep, outsideStep, taskStep, serving, counted]
      obtain ⟨labels, rest⟩ := @induction { state with signals := count } serving rfl
      exact ⟨_, run_append (run_one taken trivial) rest⟩

theorem replies_taken {state : WindowsPeripheral} (serving : state.phase = .serving) :
    ∃ labels, Run windowsStep subscribesOutside state labels { state with replies := [] } := by
  generalize queued : state.replies = replies
  induction replies generalizing state with
  | nil =>
      refine ⟨[], ?_⟩
      rw [← queued]
      exact .start
  | cons bytes rest induction =>
      have taken : windowsStep state (.notify false) = some { state with replies := rest } := by
        simp [windowsStep, outsideStep, taskStep, serving, queued]
      obtain ⟨labels, later⟩ := @induction { state with replies := rest } serving rfl
      exact ⟨_, run_append (run_one taken trivial) later⟩

/-- Once its connection was dropped, the inner loop can swallow every signal before it
is left. -/
theorem serving_drains {state : WindowsPeripheral} (serving : state.phase = .serving)
    (dropped : state.alive = false) :
    ∃ labels, Run windowsStep subscribesOutside state labels
      { state with phase := .waiting, writeForward := none, signals := 0, replies := [] } := by
  obtain ⟨swallowing, swallowed⟩ := signals_swallowed serving
  obtain ⟨taking, taken⟩ := @replies_taken { state with signals := 0 } serving
  have left : windowsStep { state with signals := 0, replies := [] } .leave =
      some { state with phase := .clearing, signals := 0, replies := [] } := by
    simp [windowsStep, outsideStep, taskStep, serving, dropped]
  have cleared : windowsStep { state with phase := .clearing, signals := 0, replies := [] }
      .clear = some { state with
        phase := .waiting, writeForward := none, signals := 0, replies := [] } := rfl
  exact ⟨_, run_append (run_append swallowed taken)
    (run_append (run_one left trivial) (run_one cleared trivial))⟩

theorem connection_released (state : WindowsPeripheral) :
    ∃ labels, Run windowsStep subscribesOutside state labels { state with alive := false } := by
  cases held : state.alive with
  | false =>
      refine ⟨[], ?_⟩
      rw [← held]
      exact .start
  | true =>
      have taken : windowsStep state .release = some { state with alive := false } := by
        simp [windowsStep, outsideStep, held]
      exact ⟨_, run_one taken trivial⟩

theorem waiting_stranded {state : WindowsPeripheral} {client : Nat}
    (waiting : state.phase = .waiting) (silent : state.signals = 0)
    (dropped : state.alive = false) (unserved : Unserved state client) :
    StrandedClient state where
  quiescent := by
    intro label ofTask
    cases label with
    | takeSignal => simp [windowsStep, outsideStep, taskStep, waiting, silent]
    | setForward | create _ | notify _ | ignoreSignal | leave | clear | finish =>
        simp [windowsStep, outsideStep, taskStep, waiting]
    | subscribe | unsubscribe _ | write _ | reply _ | release | stopSignal => cases ofTask
  dropped := dropped
  running := by
    rw [waiting]
    decide
  unserved := ⟨client, unserved⟩

theorem newcomer_unserved {state : WindowsPeripheral} (numbered : ClientsNumbered state)
    (alone : state.clients = ∅) : Unserved state.subscribe state.subscriptions := by
  refine ⟨Finset.mem_insert_self _ _, ?_, fun users listed member =>
    Nat.lt_irrefl _ (numbered.made users listed _ member)⟩
  simp [WindowsPeripheral.subscribe, alone]

theorem serving_strands {state : WindowsPeripheral} {client : Nat}
    (serving : state.phase = .serving) (unserved : Unserved state client) :
    ∃ labels last, Run windowsStep subscribesOutside state labels last ∧
      StrandedClient last := by
  obtain ⟨releasing, released⟩ := connection_released state
  obtain ⟨draining, drained⟩ := @serving_drains { state with alive := false } serving rfl
  exact ⟨_, _, run_append released drained, waiting_stranded rfl rfl rfl unserved⟩

/-- A client that comes when the connection of the task is spent can be stranded. -/
theorem spent_strands {state : WindowsPeripheral} (numbered : ClientsNumbered state)
    (alone : state.clients = ∅) (spent : connectionSpent state.writeForward state.phase) :
    ∃ labels last, Run windowsStep subscribesOutside state.subscribe labels last ∧
      StrandedClient last := by
  have unserved := newcomer_unserved numbered alone
  cases phase : state.phase with
  | serving => exact serving_strands phase unserved
  | sending =>
      rw [phase] at spent
      have cut : state.writeForward = none := spent
      have taken : windowsStep state.subscribe (.create true) =
          some (state.subscribe.create true) := by
        simp [windowsStep, outsideStep, taskStep, WindowsPeripheral.subscribe, phase]
      have still : Unserved (state.subscribe.create true) state.subscriptions := by
        refine ⟨unserved.1, unserved.2.1, fun users listed => ?_⟩
        rcases List.mem_append.mp listed with old | new
        · exact unserved.2.2 users old
        · -- the channel of this connection is closed
          obtain rfl := List.mem_singleton.mp new
          simp [WindowsPeripheral.subscribe, cut]
      obtain ⟨labels, last, run, stranded⟩ := serving_strands rfl still
      exact ⟨_, last, run_append (run_one taken trivial) run, stranded⟩
  | waiting | opening | clearing | stopping | stopped =>
      rw [phase] at spent
      exact absurd spent id

/-- Two clients one after the other; the holder drops the first connection before or
after the second client comes. -/
def twoClients (early : Bool) : List WindowsLabel :=
  [.subscribe, .takeSignal, .setForward, .create true, .write [1], .reply [2], .notify true,
    .unsubscribe 0] ++
  if early then [.subscribe, .ignoreSignal, .release, .leave, .clear]
  else [.release, .leave, .clear, .subscribe, .takeSignal, .setForward, .create true]

/-- The second client comes while a connection is on its way that was cut off with the
first. -/
def clientBehindCut : List WindowsLabel :=
  [.subscribe, .takeSignal, .setForward, .unsubscribe 0, .subscribe, .create true, .write [7],
    .ignoreSignal, .release, .leave, .clear]

theorem stranded_of_execute {labels : List WindowsLabel} {made : List (Finset Nat)}
    (finished : ((execute windowsStep .new labels).map fun state =>
      ((state.clients, state.newcomers, state.made), (state.phase, state.signals), state.alive)) =
        some (({1}, {0, 1}, made), (.waiting, 0), false))
    (unmade : ∀ users ∈ made, 1 ∉ users) :
    ∃ state, Run windowsStep anyStep .new labels state ∧ state.clients = {1} ∧
      state.made = made ∧ StrandedClient state := by
  obtain ⟨state, reached, found⟩ := Option.map_eq_some_iff.mp finished
  simp only [Prod.mk.injEq] at found
  obtain ⟨⟨clients, newcomers, rfl⟩, ⟨waiting, silent⟩, dropped⟩ := found
  have unserved : Unserved state 1 := ⟨by simp [clients], by simp [newcomers], unmade⟩
  exact ⟨state, run_of_execute reached, clients, rfl,
    waiting_stranded waiting silent dropped unserved⟩

end Pathweave
