import Pathweave.HealthMonitor
import Pathweave.SelfDialling

/-!
# Starts of the QUIC transport

`QuicTransport::start` stores its endpoint and its address before the mDNS steps, any
of which can still fail, and it does not take them back. `health_monitor` calls
`stop` only before the next start. So a transport whose last start failed after the
endpoint was bound keeps an endpoint and an address until the next poll.
-/

namespace Pathweave

open ByteStrings

set_option autoImplicit false

/-! ## Start and stop -/

/-- The fallible steps of `start` in their order. -/
inductive QuicStartStep where
  | serverConfig
  | server
  | localAddr
  | serviceDaemon
  | serviceInfo
  | register
  | browse
  deriving DecidableEq

/-- How the environment answers a start: the steps that would pass, and the address
that the endpoint reports. -/
structure QuicAttempt where
  passes : QuicStartStep → Bool
  reported : SocketAddr

/-- A transport with its endpoint, given by the address it is bound to, and whether it
holds the state of the mDNS daemon. -/
structure QuicService where
  transport : QuicTransport
  endpoint : Option SocketAddr
  mdns : Bool

namespace QuicService

def new (listenAddr : SocketAddr) : QuicService where
  transport := .new listenAddr
  endpoint := none
  mdns := false

def tryStep (attempt : QuicAttempt) (step : QuicStartStep) :
    ExceptT QuicStartStep (StateM QuicService) Unit :=
  if attempt.passes step then pure () else throw step

def startSteps (attempt : QuicAttempt) : ExceptT QuicStartStep (StateM QuicService) Unit := do
  tryStep attempt .serverConfig
  tryStep attempt .server
  tryStep attempt .localAddr
  modify fun service => { service with endpoint := some attempt.reported }
  modify fun service =>
    { service with transport := { service.transport with startedAddr := some attempt.reported } }
  tryStep attempt .serviceDaemon
  tryStep attempt .serviceInfo
  tryStep attempt .register
  tryStep attempt .browse
  modify fun service => { service with mdns := true }

def start (service : QuicService) (attempt : QuicAttempt) :
    Except QuicStartStep Unit × QuicService :=
  (startSteps attempt).run.run service

def stop (service : QuicService) : QuicService where
  transport := { service.transport with startedAddr := none }
  endpoint := none
  mdns := false

end QuicService

namespace QuicAttempt

def binds (attempt : QuicAttempt) : Bool :=
  attempt.passes .serverConfig && attempt.passes .server && attempt.passes .localAddr

def succeeds (attempt : QuicAttempt) : Bool :=
  attempt.binds && attempt.passes .serviceDaemon && attempt.passes .serviceInfo &&
    attempt.passes .register && attempt.passes .browse

theorem binds_iff (attempt : QuicAttempt) :
    attempt.binds = true ↔ attempt.passes .serverConfig = true ∧
      attempt.passes .server = true ∧ attempt.passes .localAddr = true := by
  simp [binds, and_assoc]

end QuicAttempt

namespace QuicService

theorem try_step_bind (attempt : QuicAttempt) (step : QuicStartStep)
    (rest : Unit → ExceptT QuicStartStep (StateM QuicService) Unit) (service : QuicService) :
    (tryStep attempt step >>= rest).run.run service =
      if attempt.passes step then (rest ()).run.run service else (.error step, service) := by
  unfold tryStep
  split_ifs <;> rfl

theorem modify_bind (change : QuicService → QuicService)
    (rest : Unit → ExceptT QuicStartStep (StateM QuicService) Unit) (service : QuicService) :
    (modify change >>= rest).run.run service = (rest ()).run.run (change service) := rfl

def bound (service : QuicService) (attempt : QuicAttempt) : QuicService :=
  { service with
    transport := { service.transport with startedAddr := some attempt.reported }
    endpoint := some attempt.reported }

theorem start_failed {service : QuicService} {attempt : QuicAttempt}
    (failed : attempt.succeeds = false) :
    (service.start attempt).1.isOk = false ∧
      (service.start attempt).2 = if attempt.binds then service.bound attempt else service := by
  by_cases binds : attempt.binds = true
  · obtain ⟨config, server, address⟩ := attempt.binds_iff.mp binds
    rw [if_pos binds]
    simp only [start, startSteps, try_step_bind, modify_bind, config, server, address, if_true]
    -- one case per mDNS step that can stop the start
    split_ifs with daemon info register browse
    · simp [QuicAttempt.succeeds, binds, daemon, info, register, browse] at failed
    all_goals exact ⟨rfl, rfl⟩
  · rw [if_neg binds]
    simp only [start, startSteps, try_step_bind]
    by_cases config : attempt.passes .serverConfig = true
    · by_cases server : attempt.passes .server = true
      · have address : ¬ attempt.passes .localAddr = true :=
          fun address => binds (attempt.binds_iff.mpr ⟨config, server, address⟩)
        rw [if_pos config, if_pos server, if_neg address]
        exact ⟨rfl, rfl⟩
      · rw [if_pos config, if_neg server]
        exact ⟨rfl, rfl⟩
    · rw [if_neg config]
      exact ⟨rfl, rfl⟩

theorem start_succeeded {service : QuicService} {attempt : QuicAttempt}
    (passed : attempt.succeeds = true) :
    service.start attempt = (.ok (), { service.bound attempt with mdns := true }) := by
  simp only [QuicAttempt.succeeds, Bool.and_eq_true, QuicAttempt.binds_iff] at passed
  obtain ⟨⟨⟨⟨⟨config, server, address⟩, daemon⟩, info⟩, register⟩, browse⟩ := passed
  simp only [start, startSteps, try_step_bind, modify_bind, config, server, address, daemon, info,
    register, browse, if_true]
  rfl

/-- The address that a transport reports after a start is the one it has just bound, or
the one it had before. -/
theorem start_stores (service : QuicService) (attempt : QuicAttempt) :
    (service.start attempt).2.endpoint =
        (if attempt.binds then some attempt.reported else service.endpoint) ∧
      (service.start attempt).2.transport.startedAddr =
        if attempt.binds then some attempt.reported else service.transport.startedAddr := by
  cases outcome : attempt.succeeds with
  | true =>
      have binds : attempt.binds = true := by
        simp only [QuicAttempt.succeeds, Bool.and_eq_true] at outcome
        exact outcome.1.1.1.1
      rw [start_succeeded outcome, binds]
      exact ⟨rfl, rfl⟩
  | false =>
      rw [(start_failed outcome).2]
      cases attempt.binds <;> exact ⟨rfl, rfl⟩

end QuicService

/-! ## Histories -/

def serviceAfter (listenAddr : SocketAddr) : MonitorLog QuicAttempt → QuicService
  | [] => .new listenAddr
  | .start attempt :: before => ((serviceAfter listenAddr before).start attempt).2
  | .stop :: before => (serviceAfter listenAddr before).stop
  | _ :: before => serviceAfter listenAddr before

def runningStart {Outcome : Type} : MonitorLog Outcome → Option Outcome
  | [] => none
  | .start outcome :: _ => some outcome
  | .stop :: _ => none
  | _ :: before => runningStart before

theorem idle_not_running {Outcome : Type} {log : MonitorLog Outcome} (quiet : idle log = true) :
    runningStart log = none := by
  induction log with
  | nil => rfl
  | cons action before induction =>
      cases action with
      | start outcome => simp [idle] at quiet
      | stop => rfl
      | poll _ | setAvailable _ | sendStarted _ | transportChanged _ _ => exact induction quiet

/-- The address that the most recent start has left behind. -/
def leftBehind (log : MonitorLog QuicAttempt) : Option SocketAddr :=
  (runningStart log).bind fun attempt => if attempt.binds then some attempt.reported else none

/-- A monitor starts a transport only while nothing is left of an earlier start. -/
theorem service_after {kind : TransportKind} {log : MonitorLog QuicAttempt}
    (each : EachAllowed QuicAttempt.succeeds kind log) (listenAddr : SocketAddr) :
    (serviceAfter listenAddr log).endpoint = leftBehind log ∧
      (serviceAfter listenAddr log).transport.startedAddr = leftBehind log := by
  induction log with
  | nil => exact ⟨rfl, rfl⟩
  | cons action before induction =>
      cases action with
      | start attempt =>
          have clean : leftBehind before = none := by
            rw [leftBehind, idle_not_running each.1]
            rfl
          obtain ⟨endpoint, address⟩ := induction each.2
          obtain ⟨newEndpoint, newAddress⟩ :=
            (serviceAfter listenAddr before).start_stores attempt
          rw [endpoint, clean] at newEndpoint
          rw [address, clean] at newAddress
          exact ⟨newEndpoint, newAddress⟩
      | stop => exact ⟨rfl, rfl⟩
      | poll _ | setAvailable _ | sendStarted _ | transportChanged _ _ => exact induction each.2

/-- A QUIC transport and a point in the run of its monitor. -/
structure QuicHistory where
  listenAddr : SocketAddr
  log : MonitorLog QuicAttempt
  monitored : ∃ own addrs outcome ticks later,
    (healthMonitor QuicAttempt.succeeds .quic own addrs outcome ticks).log = later ++ log

namespace QuicHistory

variable (history : QuicHistory)

def service : QuicService := serviceAfter history.listenAddr history.log

/-- The most recent start has returned `Ok` and no stop has followed it. -/
def Running : Prop := ∃ attempt, runningStart history.log = some attempt ∧ attempt.succeeds = true

/-- The most recent start has failed after it had stored its endpoint, and no stop has
followed it. -/
def LateFailure : Prop :=
  ∃ attempt, runningStart history.log = some attempt ∧
    attempt.binds = true ∧ attempt.succeeds = false

theorem stored :
    history.service.endpoint = leftBehind history.log ∧
      history.service.transport.startedAddr = leftBehind history.log := by
  obtain ⟨own, addrs, outcome, ticks, later, split⟩ := history.monitored
  have settled : Settled QuicAttempt.succeeds .quic
      (healthMonitor QuicAttempt.succeeds .quic own addrs outcome ticks) :=
    settled_run addrs outcome ticks
  have each := settled.allowed
  rw [split] at each
  exact service_after (each_allowed_suffix each) history.listenAddr

theorem left_behind_iff :
    leftBehind history.log ≠ none ↔
      ∃ attempt, runningStart history.log = some attempt ∧ attempt.binds = true := by
  unfold leftBehind
  cases runningStart history.log with
  | none => simp
  | some attempt => cases binds : attempt.binds <;> simp [binds]

theorem left_behind_running_iff :
    (leftBehind history.log ≠ none → history.Running) ↔ ¬ history.LateFailure := by
  rw [left_behind_iff]
  constructor
  · rintro only ⟨attempt, last, binds, failed⟩
    obtain ⟨other, same, succeeded⟩ := only ⟨attempt, last, binds⟩
    rw [last] at same
    cases same
    rw [failed] at succeeded
    cases succeeded
  · rintro never ⟨attempt, last, binds⟩
    refine ⟨attempt, last, ?_⟩
    cases outcome : attempt.succeeds with
    | true => rfl
    | false => exact absurd ⟨attempt, last, binds, outcome⟩ never

theorem local_addresses_left_behind :
    history.service.transport.localAddresses = (leftBehind history.log).toList.map .quic := by
  rw [QuicTransport.localAddresses, history.stored.2]
  cases leftBehind history.log <;> rfl

theorem advertises_iff : history.service.transport.localAddresses ≠ [] ↔
    leftBehind history.log ≠ none := by
  rw [local_addresses_left_behind]
  cases leftBehind history.log <;> simp

end QuicHistory

/-! ## What is advertised -/

/-- `Router::local_addresses` of a router whose transports are at these points. -/
def routerLocalAddresses (histories : List QuicHistory) : List PeerAddress :=
  histories.flatMap fun history => history.service.transport.localAddresses

/-- The addresses in the frame of `handle_incoming`, as the other node reads them. -/
def AdvertisedTo (histories : List QuicHistory) (addresses : List PeerAddress) : Prop :=
  decodeAddrExchange (encodeAddrExchange (routerLocalAddresses histories)) = .ok (some addresses)

theorem advertised_to_listed {histories : List QuicHistory} {addresses : List PeerAddress}
    (advertised : AdvertisedTo histories addresses) {address : PeerAddress}
    (listed : address ∈ addresses) :
    ∃ history ∈ histories,
      address ∈ history.service.transport.localAddresses.map PeerAddress.onWire := by
  have reads : ∀ known ∈ routerLocalAddresses histories, ReadsAs known known.onWire := by
    intro known among
    obtain ⟨history, _, own⟩ := List.mem_flatMap.mp among
    rw [history.local_addresses_left_behind] at own
    obtain ⟨socket, _, rfl⟩ := List.mem_map.mp own
    exact reads_quic socket
  rw [AdvertisedTo, decode_encode_addr_exchange reads] at advertised
  cases advertised
  obtain ⟨known, taken, rfl⟩ := List.mem_map.mp listed
  obtain ⟨history, among, own⟩ := List.mem_flatMap.mp (List.mem_of_mem_take taken)
  exact ⟨history, among, List.mem_map_of_mem own⟩

/-- Nothing is advertised and no endpoint is held but by running transports, exactly
when no transport is left behind by a start that failed late. -/
theorem failed_start_advertises_iff (histories : List QuicHistory) :
    ((∀ history ∈ histories,
        (history.service.transport.localAddresses ≠ [] → history.Running) ∧
        (history.service.endpoint ≠ none → history.Running)) ∧
      (∀ addresses, AdvertisedTo histories addresses → ∀ address ∈ addresses,
        ∃ history ∈ histories, history.Running ∧
          address ∈ history.service.transport.localAddresses.map PeerAddress.onWire)) ↔
      ∀ history ∈ histories, ¬ history.LateFailure := by
  constructor
  · rintro ⟨each, _⟩ history listed
    rw [← history.left_behind_running_iff, ← history.advertises_iff]
    exact (each history listed).1
  · intro never
    have each : ∀ history ∈ histories, leftBehind history.log ≠ none → history.Running :=
      fun history listed => history.left_behind_running_iff.mpr (never history listed)
    refine ⟨?_, ?_⟩
    · intro history listed
      rw [history.advertises_iff, history.stored.1]
      exact ⟨each history listed, each history listed⟩
    · intro addresses advertised address among
      obtain ⟨history, listed, own⟩ := advertised_to_listed advertised among
      have some : history.service.transport.localAddresses ≠ [] := by
        intro nothing
        simp [nothing] at own
      exact ⟨history, listed, each history listed (history.advertises_iff.mp some), own⟩

def daemonFails : QuicAttempt where
  passes := fun step => decide (step ≠ .serviceDaemon)
  reported := wildcard 4242

def daemonFailure : QuicHistory where
  listenAddr := wildcard 0
  log := [.start daemonFails, .poll ∅]
  monitored := ⟨0, ∅, daemonFails, [], [], rfl⟩

theorem daemon_failure_advertised :
    endpointReports daemonFailure.listenAddr daemonFails.reported = true ∧
    daemonFails.succeeds = false ∧
    daemonFailure.service.endpoint = some daemonFails.reported ∧
    AdvertisedTo [daemonFailure] [.quic daemonFails.reported] ∧
    ¬ daemonFailure.Running := by
  refine ⟨by decide, by decide, rfl, ?_, ?_⟩
  · unfold AdvertisedTo
    decide +kernel
  · rintro ⟨attempt, last, passed⟩
    cases last
    cases passed

end Pathweave
