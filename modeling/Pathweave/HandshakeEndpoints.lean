import Pathweave.GuardedRuns
import Pathweave.HandshakeSteps
import Pathweave.HexIds

/-!
# Both ends of a handshake

`Session::initiate` and `Session::respond` between the points where they wait for the
connection. The prefix byte that selects the pattern is sent in the clear and outside the
Noise messages, of which the initiator sends the first and the third. Any number of calls
run at once, on a network that delivers whatever it likes to whomever it likes.
-/

namespace Pathweave

open ByteStrings GuardedRuns

set_option autoImplicit false

/-! ## The Noise library -/

inductive NoisePattern where
  | xx
  | xk
  deriving DecidableEq

/-- A handshake state: what it was built from and the messages it has processed. The
ephemeral key stands for the randomness of the state. -/
structure HandshakeState where
  pattern : NoisePattern
  role : Role
  own : PublicKey
  ephemeral : Nat
  remote : Option PublicKey
  transcript : List Bytes
  deriving DecidableEq

/-- `write_message` and `read_message` with empty payloads. Reading returns the static key
that the message brought, if it brought one. -/
structure HandshakeLibrary where
  write (state : HandshakeState) : Bytes
  read (state : HandshakeState) (message : Bytes) : Except String (Option PublicKey)

def HandshakeState.accept (state : HandshakeState) (message : Bytes)
    (revealed : Option PublicKey) : HandshakeState :=
  { state with
    remote := revealed.or state.remote
    transcript := state.transcript ++ [message] }

def HandshakeState.reply (library : HandshakeLibrary) (state : HandshakeState) :
    HandshakeState :=
  { state with transcript := state.transcript ++ [library.write state] }

/-! ## The two functions, between the points where they wait -/

variable {prims : Primitives}

inductive Stage (prims : Primitives) where
  | awaitPrefix
  | awaiting (state : HandshakeState)
  | returned (state : Option HandshakeState) (result : Except Error (Session prims))

structure Endpoint (prims : Primitives) where
  own : PublicKey
  role : Role
  ephemeral : Nat
  stage : Stage prims

def Stage.state : Stage prims → Option HandshakeState
  | .awaitPrefix => none
  | .awaiting state => some state
  | .returned state _ => state

def finishHandshake (prims : Primitives) (state : HandshakeState) :
    Except Error (Session prims) :=
  match state.remote with
  | some key => .ok (Session.finish prims key)
  | none => .error (.session "remote static key unavailable after handshake")

section Calls

variable (library : HandshakeLibrary) (own : PublicKey) (ephemeral : Nat)

/-- A key in the registry selects XK. -/
def buildInitiator (remoteKey : Option PublicKey) : HandshakeState where
  pattern := if remoteKey.isSome then .xk else .xx
  role := .initiator
  own := own
  ephemeral := ephemeral
  remote := remoteKey
  transcript := []

def buildResponder (pattern : NoisePattern) : HandshakeState where
  pattern := pattern
  role := .responder
  own := own
  ephemeral := ephemeral
  remote := none
  transcript := []

/-- `initiate` up to its `recv_bytes`, with the results of the two sends. -/
def initiateStage (remoteKey : Option PublicKey) (sentPrefix sentFirst : Option Error) :
    Stage prims :=
  match sentPrefix with
  | some error => .returned (some (buildInitiator own ephemeral remoteKey)) (.error error)
  | none =>
      let first := (buildInitiator own ephemeral remoteKey).reply library
      match sentFirst with
      | some error => .returned (some first) (.error error)
      | none => .awaiting first

/-- `respond` from its first `recv_bytes` to the second. -/
def recvPrefix (message : Bytes) : Stage prims :=
  match message.head? with
  | none => .returned none (.error (.session "missing protocol prefix byte"))
  | some byte =>
      if byte = protoXX then .awaiting (buildResponder own ephemeral .xx)
      else if byte = protoXK then .awaiting (buildResponder own ephemeral .xk)
      else
        .returned none (.error (.session
          ("unknown protocol prefix: 0x" ++ String.ofList (hexChars byte))))

end Calls

/-- Either function from the receipt of a Noise message to where it waits next or
returns, with the result of the send in between. -/
def recvMessage (library : HandshakeLibrary) (state : HandshakeState) (message : Bytes)
    (sent : Option Error) : Stage prims :=
  match library.read state message with
  | .error detail => .returned (some state) (.error (.session detail))
  | .ok revealed =>
      let read := state.accept message revealed
      match state.role with
      | .initiator =>
          let third := read.reply library
          match sent with
          | some error => .returned (some third) (.error error)
          | none => .returned (some third) (finishHandshake prims third)
      | .responder =>
          if state.transcript = [] then
            let second := read.reply library
            match sent with
            | some error => .returned (some second) (.error error)
            | none => .awaiting second
          else .returned (some read) (finishHandshake prims read)

/-! ## Many handshakes at once -/

inductive HandshakeLabel where
  | initiate (own : PublicKey) (remoteKey : Option PublicKey) (sentPrefix sentFirst : Option Error)
  | respond (own : PublicKey)
  | recv (index : Nat) (message : Bytes) (sent : Option Error)
  /-- `recv_bytes` returns an error. -/
  | fail (index : Nat) (error : Error)

def endpointRecv (library : HandshakeLibrary) (endpoint : Endpoint prims) (message : Bytes)
    (sent : Option Error) : Option (Endpoint prims) :=
  match endpoint.stage with
  | .awaitPrefix =>
      some { endpoint with stage := recvPrefix endpoint.own endpoint.ephemeral message }
  | .awaiting state => some { endpoint with stage := recvMessage library state message sent }
  | .returned _ _ => none

def endpointFail (endpoint : Endpoint prims) (error : Error) : Option (Endpoint prims) :=
  match endpoint.stage with
  | .returned _ _ => none
  | waiting => some { endpoint with stage := .returned waiting.state (.error error) }

def endpointStep (library : HandshakeLibrary) (world : List (Endpoint prims)) :
    HandshakeLabel → Option (List (Endpoint prims))
  | .initiate own remoteKey sentPrefix sentFirst =>
      some (world ++ [{ own := own
                        role := .initiator
                        ephemeral := world.length
                        stage := initiateStage library own world.length remoteKey sentPrefix
                          sentFirst }])
  | .respond own =>
      some (world ++ [{ own := own
                        role := .responder
                        ephemeral := world.length
                        stage := .awaitPrefix }])
  | .recv index message sent => do
      let endpoint ← world[index]?
      let next ← endpointRecv library endpoint message sent
      some (world.set index next)
  | .fail index error => do
      let endpoint ← world[index]?
      let next ← endpointFail endpoint error
      some (world.set index next)

/-! ## What a step can do -/

section Moves

variable (library : HandshakeLibrary) (world : List (Endpoint prims))

inductive EndpointMove : HandshakeLabel → List (Endpoint prims) → Prop where
  | initiated (own : PublicKey) (remoteKey : Option PublicKey)
      (sentPrefix sentFirst : Option Error) :
      EndpointMove (.initiate own remoteKey sentPrefix sentFirst)
        (world ++ [{ own := own
                     role := .initiator
                     ephemeral := world.length
                     stage := initiateStage library own world.length remoteKey sentPrefix
                       sentFirst }])
  | responding (own : PublicKey) :
      EndpointMove (.respond own)
        (world ++ [{ own := own
                     role := .responder
                     ephemeral := world.length
                     stage := .awaitPrefix }])
  | prefixed {index : Nat} {endpoint : Endpoint prims} {message : Bytes} {sent : Option Error}
      (present : world[index]? = some endpoint) (waits : endpoint.stage = .awaitPrefix) :
      EndpointMove (.recv index message sent)
        (world.set index
          { endpoint with stage := recvPrefix endpoint.own endpoint.ephemeral message })
  | received {index : Nat} {endpoint : Endpoint prims} {state : HandshakeState} {message : Bytes}
      {sent : Option Error} (present : world[index]? = some endpoint)
      (waits : endpoint.stage = .awaiting state) :
      EndpointMove (.recv index message sent)
        (world.set index { endpoint with stage := recvMessage library state message sent })
  | failed {index : Nat} {endpoint : Endpoint prims} {error : Error}
      (present : world[index]? = some endpoint)
      (waits : ∀ state result, endpoint.stage ≠ .returned state result) :
      EndpointMove (.fail index error)
        (world.set index
          { endpoint with stage := .returned endpoint.stage.state (.error error) })

variable {library world}

theorem endpoint_step_moves {label : HandshakeLabel} {next : List (Endpoint prims)}
    (taken : endpointStep library world label = some next) :
    EndpointMove library world label next := by
  cases label with
  | initiate own remoteKey sentPrefix sentFirst =>
      cases taken
      exact .initiated own remoteKey sentPrefix sentFirst
  | respond own =>
      cases taken
      exact .responding own
  | recv index message sent =>
      obtain ⟨endpoint, present, taken⟩ := Option.bind_eq_some_iff.mp taken
      obtain ⟨after, stepped, taken⟩ := Option.bind_eq_some_iff.mp taken
      cases taken
      unfold endpointRecv at stepped
      split at stepped
      · next waits =>
          cases stepped
          exact .prefixed present waits
      · next state waits =>
          cases stepped
          exact .received present waits
      · cases stepped
  | fail index error =>
      obtain ⟨endpoint, present, taken⟩ := Option.bind_eq_some_iff.mp taken
      obtain ⟨after, stepped, taken⟩ := Option.bind_eq_some_iff.mp taken
      cases taken
      unfold endpointFail at stepped
      split at stepped
      · cases stepped
      · next waits =>
          cases stepped
          exact .failed present waits

end Moves

/-! ## The points a call can have reached -/

section Reached

variable (library : HandshakeLibrary) (own : PublicKey) (ephemeral : Nat)

def offered (remoteKey : Option PublicKey) : HandshakeState :=
  (buildInitiator own ephemeral remoteKey).reply library

def confirmed (remoteKey : Option PublicKey) (second : Bytes) (revealed : Option PublicKey) :
    HandshakeState :=
  ((offered library own ephemeral remoteKey).accept second revealed).reply library

def heard (pattern : NoisePattern) (first : Bytes) (revealed : Option PublicKey) :
    HandshakeState :=
  (buildResponder own ephemeral pattern).accept first revealed

def answered (pattern : NoisePattern) (first : Bytes) (revealed : Option PublicKey) :
    HandshakeState :=
  (heard own ephemeral pattern first revealed).reply library

variable (prims) in
/-- The states in which a call waits or has returned. A call that failed keeps the state
it failed in; the initiator fails early, before its third message, or in sending it. -/
inductive Reached : Role → Stage prims → Prop where
  | offered (remoteKey : Option PublicKey) :
      Reached .initiator (.awaiting (offered library own ephemeral remoteKey))
  | stopped {state : HandshakeState} {error : Error} (early : state.transcript.length ≤ 1) :
      Reached .initiator (.returned (some state) (.error error))
  | confirmed (remoteKey : Option PublicKey) (second : Bytes) (revealed : Option PublicKey)
      {result : Except Error (Session prims)}
      (accepted : library.read (offered library own ephemeral remoteKey) second = .ok revealed)
      (outcome : result = finishHandshake prims
          (confirmed library own ephemeral remoteKey second revealed) ∨
        ∃ error, result = .error error) :
      Reached .initiator
        (.returned (some (confirmed library own ephemeral remoteKey second revealed)) result)
  | waiting : Reached .responder .awaitPrefix
  | listening (pattern : NoisePattern) :
      Reached .responder (.awaiting (buildResponder own ephemeral pattern))
  | answered (pattern : NoisePattern) (first : Bytes) (revealed : Option PublicKey)
      (accepted : library.read (buildResponder own ephemeral pattern) first = .ok revealed) :
      Reached .responder (.awaiting (answered library own ephemeral pattern first revealed))
  | refused {state : Option HandshakeState} {error : Error} :
      Reached .responder (.returned state (.error error))
  | concluded (pattern : NoisePattern) (first third : Bytes)
      (revealed final : Option PublicKey)
      (accepted : library.read (buildResponder own ephemeral pattern) first = .ok revealed)
      (concluding : library.read (answered library own ephemeral pattern first revealed) third =
        .ok final) :
      Reached .responder
        (.returned
          (some ((answered library own ephemeral pattern first revealed).accept third final))
          (finishHandshake prims
            ((answered library own ephemeral pattern first revealed).accept third final)))

variable {library own ephemeral}

theorem reached_initiate (remoteKey : Option PublicKey) (sentPrefix sentFirst : Option Error) :
    Reached prims library own ephemeral .initiator
      (initiateStage library own ephemeral remoteKey sentPrefix sentFirst) := by
  cases sentPrefix with
  | some error => exact .stopped (by simp [buildInitiator])
  | none =>
      cases sentFirst with
      | some error => exact .stopped (by simp [buildInitiator, HandshakeState.reply])
      | none => exact .offered remoteKey

theorem reached_prefix (message : Bytes) :
    Reached prims library own ephemeral .responder
      (recvPrefix own ephemeral message) := by
  unfold recvPrefix
  split
  · exact .refused
  · split_ifs
    · exact .listening .xx
    · exact .listening .xk
    · exact .refused

theorem reached_message {role : Role} {state : HandshakeState} {message : Bytes}
    {sent : Option Error}
    (reached : Reached prims library own ephemeral role (.awaiting state)) :
    Reached prims library own ephemeral role
      (recvMessage library state message sent) := by
  unfold recvMessage
  cases reached with
  | offered remoteKey =>
      split
      · exact .stopped (by simp [offered, HandshakeState.reply, buildInitiator])
      · next revealed accepted =>
          cases sent with
          | some error => exact .confirmed remoteKey message revealed accepted (.inr ⟨error, rfl⟩)
          | none => exact .confirmed remoteKey message revealed accepted (.inl rfl)
  | listening pattern =>
      split
      · exact .refused
      · next revealed accepted =>
          cases sent with
          | some error => exact .refused
          | none => exact .answered pattern message revealed accepted
  | answered pattern first revealed accepted =>
      split
      · exact .refused
      · next final concluding =>
          exact .concluded pattern first message revealed final accepted concluding

theorem reached_fail {role : Role} {stage : Stage prims} {error : Error}
    (waits : ∀ state result, stage ≠ .returned state result)
    (reached : Reached prims library own ephemeral role stage) :
    Reached prims library own ephemeral role (.returned stage.state (.error error)) := by
  cases reached with
  | offered remoteKey => exact .stopped (by simp [offered, HandshakeState.reply, buildInitiator])
  | stopped early => exact absurd rfl (waits _ _)
  | confirmed remoteKey second revealed accepted outcome => exact absurd rfl (waits _ _)
  | waiting => exact .refused
  | listening pattern => exact .refused
  | answered pattern first revealed accepted => exact .refused
  | refused => exact absurd rfl (waits _ _)
  | concluded pattern first third revealed final => exact absurd rfl (waits _ _)

end Reached

/-! ## The initiator in one piece -/

section Initiate

variable (library : HandshakeLibrary) (own : PublicKey) (ephemeral : Nat)

def sendResult : Option Error → Except Error Unit
  | some error => .error error
  | none => .ok ()

def callScript (remoteKey : Option PublicKey) (sent : Nat → Option Error) (second : Bytes) :
    HandshakeScript where
  built := .ok ()
  firstMessage := .ok (library.write (buildInitiator own ephemeral remoteKey))
  readSecond message :=
    (library.read (offered library own ephemeral remoteKey) message).map fun _ => ()
  thirdMessage :=
    (library.read (offered library own ephemeral remoteKey) second).map fun revealed =>
      library.write ((offered library own ephemeral remoteKey).accept second revealed)
  finished :=
    match library.read (offered library own ephemeral remoteKey) second with
    | .ok revealed =>
        match (confirmed library own ephemeral remoteKey second revealed).remote with
        | some key => .ok key
        | none => .error "remote static key unavailable after handshake"
    | .error detail => .error detail
  sent number _ := sendResult (sent number)
  received := .ok second

theorem recv_second {library own ephemeral} {remoteKey revealed : Option PublicKey} {second : Bytes}
    (accepted : library.read (offered library own ephemeral remoteKey) second = .ok revealed)
    (sent : Option Error) :
    recvMessage library (offered library own ephemeral remoteKey) second sent =
      .returned (some (confirmed library own ephemeral remoteKey second revealed))
        (match sent with
          | some error => .error error
          | none => finishHandshake prims
              (confirmed library own ephemeral remoteKey second revealed)) := by
  unfold recvMessage
  rw [accepted]
  cases sent <;> rfl

def initiateCall (remoteKey : Option PublicKey) (sent : Nat → Option Error) (second : Bytes) :
    Stage prims :=
  match initiateStage library own ephemeral remoteKey (sent 0) (sent 1) with
  | .awaiting state => recvMessage library state second (sent 2)
  | stage => stage

/-- The endpoint returns what `Session::initiate` returns in one piece. -/
theorem initiate_call_steps (remoteKey : Option PublicKey) (sent : Nat → Option Error)
    (second : Bytes) :
    ∃ state, initiateCall library own ephemeral remoteKey sent second =
      .returned state
        (match initiateSteps (callScript library own ephemeral remoteKey sent second) remoteKey with
          | .ok key => .ok (Session.finish prims key)
          | .error failure => .error failure.toError) := by
  unfold initiateCall initiateStage
  cases first : sent 0 with
  | some error =>
      refine ⟨some (buildInitiator own ephemeral remoteKey), ?_⟩
      simp [initiateSteps, callScript, sendResult, first, bind, Except.bind, Except.mapError,
        HandshakeFailure.toError]
  | none =>
      cases next : sent 1 with
      | some error =>
          refine ⟨some (offered library own ephemeral remoteKey), ?_⟩
          simp [initiateSteps, callScript, sendResult, first, next, bind, Except.bind,
            Except.mapError, HandshakeFailure.toError, offered]
      | none =>
          change ∃ state, recvMessage library (offered library own ephemeral remoteKey) second
            (sent 2) = _
          cases accepted : library.read (offered library own ephemeral remoteKey) second with
          | error detail =>
              refine ⟨some (offered library own ephemeral remoteKey), ?_⟩
              simp [recvMessage, initiateSteps, callScript, sendResult, first, next, accepted, bind,
                Except.bind, Except.map, Except.mapError, HandshakeFailure.toError]
          | ok revealed =>
              refine ⟨some (confirmed library own ephemeral remoteKey second revealed), ?_⟩
              rw [recv_second accepted]
              cases last : sent 2 with
              | some error =>
                  simp [initiateSteps, callScript, sendResult, first, next, accepted, last, bind,
                    Except.bind, Except.map, Except.mapError, HandshakeFailure.toError]
              | none =>
                  cases known : (confirmed library own ephemeral remoteKey second revealed).remote
                    <;> simp [initiateSteps, callScript, sendResult, first, next, accepted, last,
                      known, bind, Except.bind, Except.map, Except.mapError,
                      HandshakeFailure.toError, finishHandshake]

end Initiate

/-! ## Every run -/

section Runs

variable {library : HandshakeLibrary} {world next : List (Endpoint prims)}
  {label : HandshakeLabel}

def Kept (library : HandshakeLibrary) (world : List (Endpoint prims)) : Prop :=
  ∀ (index : Nat) (endpoint : Endpoint prims), world[index]? = some endpoint →
    endpoint.ephemeral = index ∧
      Reached prims library endpoint.own endpoint.ephemeral endpoint.role endpoint.stage

theorem kept_append {endpoint : Endpoint prims} (kept : Kept library world)
    (numbered : endpoint.ephemeral = world.length)
    (reached : Reached prims library endpoint.own endpoint.ephemeral endpoint.role
      endpoint.stage) : Kept library (world ++ [endpoint]) := by
  intro index other present
  rw [List.getElem?_append] at present
  split_ifs at present with inside
  · exact kept index other present
  · rw [List.getElem?_singleton] at present
    split_ifs at present with last
    cases present
    exact ⟨by omega, reached⟩

theorem kept_set {endpoint : Endpoint prims} {index : Nat} {stage : Stage prims}
    (kept : Kept library world) (present : world[index]? = some endpoint)
    (reached : Reached prims library endpoint.own endpoint.ephemeral endpoint.role stage) :
    Kept library (world.set index { endpoint with stage := stage }) := by
  intro place other found
  rw [List.getElem?_set] at found
  split_ifs at found with same inside
  · cases found
    exact ⟨(kept index endpoint present).1.trans same, reached⟩
  · exact kept place other found

theorem kept_step (kept : Kept library world) (moved : EndpointMove library world label next) :
    Kept library next := by
  cases moved with
  | initiated own remoteKey sentPrefix sentFirst =>
      exact kept_append kept rfl (reached_initiate remoteKey sentPrefix sentFirst)
  | responding own => exact kept_append kept rfl .waiting
  | prefixed present waits =>
      have reached := (kept _ _ present).2
      rw [waits] at reached
      refine kept_set kept present ?_
      generalize role : Endpoint.role _ = current at reached ⊢
      cases reached with
      | waiting => exact reached_prefix _
  | received present waits =>
      have reached := (kept _ _ present).2
      rw [waits] at reached
      exact kept_set kept present (reached_message reached)
  | failed present waits =>
      exact kept_set kept present (reached_fail waits (kept _ _ present).2)

theorem kept_run {guard : List (Endpoint prims) → HandshakeLabel → Prop}
    {labels : List HandshakeLabel} (run : Run (endpointStep library) guard [] labels world) :
    Kept library world := by
  refine run_invariant (Kept library)
    (fun _ _ _ kept _ taken => kept_step kept (endpoint_step_moves taken)) run ?_
  intro index endpoint present
  simp at present

theorem finish_ok {state : HandshakeState} {session : Session prims}
    (finished : finishHandshake prims state = .ok session) :
    state.remote = some session.remoteStaticKey := by
  unfold finishHandshake at finished
  split at finished
  · next key found =>
      cases finished
      exact found
  · cases finished

/-- What a call has behind it when it returns a session. -/
inductive Completed (library : HandshakeLibrary) (endpoint : Endpoint prims) :
    HandshakeState → Prop where
  | initiator (role : endpoint.role = .initiator) (remoteKey : Option PublicKey) (second : Bytes)
      (revealed : Option PublicKey)
      (accepted : library.read (offered library endpoint.own endpoint.ephemeral remoteKey)
        second = .ok revealed) :
      Completed library endpoint
        (confirmed library endpoint.own endpoint.ephemeral remoteKey second revealed)
  | responder (role : endpoint.role = .responder) (pattern : NoisePattern) (first third : Bytes)
      (revealed final : Option PublicKey)
      (accepted : library.read (buildResponder endpoint.own endpoint.ephemeral pattern) first =
        .ok revealed)
      (concluding : library.read
        (answered library endpoint.own endpoint.ephemeral pattern first revealed) third =
          .ok final) :
      Completed library endpoint
        ((answered library endpoint.own endpoint.ephemeral pattern first revealed).accept third
          final)

/-- However the network treats the calls, a session is returned only after three Noise
messages in the order of the roles, with every message that was read accepted, and it is a
session with the key that the handshake state ends up with. -/
theorem session_completed {guard : List (Endpoint prims) → HandshakeLabel → Prop}
    {labels : List HandshakeLabel} (run : Run (endpointStep library) guard [] labels world)
    {endpoint : Endpoint prims} (listed : endpoint ∈ world) {state : Option HandshakeState}
    {session : Session prims} (ended : endpoint.stage = .returned state (.ok session)) :
    ∃ held, state = some held ∧ Completed library endpoint held ∧
      held.transcript.length = 3 ∧ held.remote = some session.remoteStaticKey := by
  obtain ⟨index, present⟩ := List.mem_iff_getElem?.mp listed
  have reached := (kept_run run index endpoint present).2
  rw [ended] at reached
  generalize role : endpoint.role = plays at reached
  generalize outcome : (Except.ok session : Except Error (Session prims)) = result at reached
  cases reached with
  | stopped early => cases outcome
  | refused => cases outcome
  | confirmed remoteKey second revealed accepted finished =>
      rcases finished with same | ⟨error, failed⟩
      · exact ⟨_, rfl, .initiator role remoteKey second revealed accepted, rfl,
          finish_ok (same.symm.trans outcome.symm)⟩
      · cases outcome.trans failed
  | concluded pattern first third revealed final accepted concluding =>
      exact ⟨_, rfl, .responder role pattern first third revealed final accepted concluding, rfl,
        finish_ok outcome.symm⟩

end Runs

end Pathweave
