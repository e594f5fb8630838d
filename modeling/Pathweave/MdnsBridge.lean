import Pathweave.KnownAddresses

/-!
# The mDNS bridge of the QUIC transport

A removal names a service only, so the bridge keeps for each service the addresses of
its last resolution and emits a departure for each of them. A resolution of a service
that is already known replaces its list. So the addresses of earlier resolutions that
the last one does not repeat never depart, and `peer_stream` keeps them as known.
-/

namespace Pathweave

open ByteStrings GuardedRuns

set_option autoImplicit false

/-! ## The bridge task -/

inductive ServiceEvent where
  | serviceResolved (fullname : String) (port : UInt16) (addressesV4 : List (Octets 4))
  | serviceRemoved (fullname : String)
  | other

structure BridgeInput where
  event : ServiceEvent
  accepts : Nat

inductive BridgeRecord where
  | resolved (fullname : String) (addrs : List SocketAddr)
  | removed (fullname : String) (addrs : List SocketAddr)

/-- The task, what it has sent on its two channels and, as history, the processed
events, the latest first. -/
structure MdnsBridge where
  resolved : String → Option (List SocketAddr)
  announced : List PeerAnnouncement
  departed : List PeerAddress
  returned : Bool
  log : List BridgeRecord

def quicAnnouncement (addr : SocketAddr) : PeerAnnouncement := ⟨.quic addr, none⟩

namespace MdnsBridge

def new : MdnsBridge where
  resolved := fun _ => none
  announced := []
  departed := []
  returned := false
  log := []

variable (bridge : MdnsBridge)

/-- Returns in the middle of its sends if the receiver is gone. -/
def resolve (fullname : String) (addrs : List SocketAddr) (accepts : Nat) : MdnsBridge :=
  if accepts < addrs.length then
    { bridge with
      announced := bridge.announced ++ (addrs.take accepts).map quicAnnouncement
      returned := true }
  else
    { bridge with
      resolved := Function.update bridge.resolved fullname (some addrs)
      announced := bridge.announced ++ addrs.map quicAnnouncement
      log := .resolved fullname addrs :: bridge.log }

def depart (fullname : String) (addrs : List SocketAddr) (accepts : Nat) : MdnsBridge :=
  if accepts < addrs.length then
    { bridge with
      resolved := Function.update bridge.resolved fullname none
      departed := bridge.departed ++ (addrs.take accepts).map PeerAddress.quic
      returned := true }
  else
    { bridge with
      resolved := Function.update bridge.resolved fullname none
      departed := bridge.departed ++ addrs.map PeerAddress.quic
      log := .removed fullname addrs :: bridge.log }

/-- A service without an entry is removed as one without addresses. -/
def remove (fullname : String) (accepts : Nat) : MdnsBridge :=
  bridge.depart fullname ((bridge.resolved fullname).getD []) accepts

def step (input : BridgeInput) : MdnsBridge :=
  if bridge.returned then bridge
  else
    match input.event with
    | .serviceResolved fullname port addressesV4 =>
        bridge.resolve fullname (addressesV4.map fun ip => .v4 ip port) input.accepts
    | .serviceRemoved fullname => bridge.remove fullname input.accepts
    | .other => bridge

def run (inputs : List BridgeInput) : MdnsBridge := inputs.foldl step new

end MdnsBridge

/-! ## Reading the log -/

def announcedFor (fullname : String) : List BridgeRecord → List SocketAddr
  | [] => []
  | .resolved other addrs :: before =>
      if other = fullname then addrs ++ announcedFor fullname before
      else announcedFor fullname before
  | .removed other _ :: before => if other = fullname then [] else announcedFor fullname before

/-- The addresses of the last resolution of a service since its previous removal. -/
def latestResolution (fullname : String) : List BridgeRecord → List SocketAddr
  | [] => []
  | .resolved other addrs :: before =>
      if other = fullname then addrs else latestResolution fullname before
  | .removed other _ :: before => if other = fullname then [] else latestResolution fullname before

/-- The address has departed since it was last announced for the service. -/
def departedSince (fullname : String) (address : SocketAddr) : List BridgeRecord → Bool
  | [] => false
  | .resolved other addrs :: before =>
      if other = fullname ∧ address ∈ addrs then false else departedSince fullname address before
  | .removed _ addrs :: before =>
      decide (address ∈ addrs) || departedSince fullname address before

def loggedDepartures : List BridgeRecord → List PeerAddress
  | [] => []
  | .resolved _ _ :: before => loggedDepartures before
  | .removed _ addrs :: before => loggedDepartures before ++ addrs.map .quic

def loggedAnnouncements : List BridgeRecord → List PeerAnnouncement
  | [] => []
  | .resolved _ addrs :: before => loggedAnnouncements before ++ addrs.map quicAnnouncement
  | .removed _ _ :: before => loggedAnnouncements before

/-- While the task runs, its table and its channels are those of the log. -/
structure BridgeLogged (bridge : MdnsBridge) : Prop where
  table : ∀ fullname, (bridge.resolved fullname).getD [] = latestResolution fullname bridge.log
  announcements : bridge.announced = loggedAnnouncements bridge.log
  departures : bridge.departed = loggedDepartures bridge.log

section Steps

variable {bridge : MdnsBridge} {fullname : String} {addrs : List SocketAddr} {accepts : Nat}

theorem updated_table (logged : BridgeLogged bridge) (entry : Option (List SocketAddr))
    (other : String) :
    (Function.update bridge.resolved fullname entry other).getD [] =
      if fullname = other then entry.getD [] else latestResolution other bridge.log := by
  by_cases same : other = fullname
  · subst same
    simp
  · simp [same, Ne.symm same, logged.table other]

theorem resolve_logged (logged : BridgeLogged bridge)
    (running : (bridge.resolve fullname addrs accepts).returned = false) :
    BridgeLogged (bridge.resolve fullname addrs accepts) := by
  unfold MdnsBridge.resolve at running ⊢
  split_ifs at running ⊢
  constructor
  · exact updated_table logged (some addrs)
  · simp [loggedAnnouncements, logged.announcements]
  · exact logged.departures

theorem depart_logged (logged : BridgeLogged bridge)
    (running : (bridge.depart fullname addrs accepts).returned = false) :
    BridgeLogged (bridge.depart fullname addrs accepts) ∧
      (bridge.depart fullname addrs accepts).log = .removed fullname addrs :: bridge.log := by
  unfold MdnsBridge.depart at running ⊢
  split_ifs at running ⊢ with closed
  refine ⟨⟨updated_table logged none, logged.announcements, ?_⟩, rfl⟩
  simp [loggedDepartures, logged.departures]

theorem remove_logged (logged : BridgeLogged bridge)
    (running : (bridge.remove fullname accepts).returned = false) :
    BridgeLogged (bridge.remove fullname accepts) ∧
      (bridge.remove fullname accepts).log =
        .removed fullname (latestResolution fullname bridge.log) :: bridge.log := by
  unfold MdnsBridge.remove at running ⊢
  rw [← logged.table]
  exact depart_logged logged running

theorem step_logged {input : BridgeInput} (logged : bridge.returned = false → BridgeLogged bridge)
    (running : (bridge.step input).returned = false) : BridgeLogged (bridge.step input) := by
  unfold MdnsBridge.step at running ⊢
  split_ifs at running ⊢ with ended
  · exact logged running
  · have held := logged (by simpa using ended)
    cases event : input.event with
    | serviceResolved service port addressesV4 =>
        simp only [event] at running ⊢
        exact resolve_logged held running
    | serviceRemoved service =>
        simp only [event] at running ⊢
        exact (remove_logged held running).1
    | other => exact held

end Steps

theorem run_logged (inputs : List BridgeInput)
    (running : (MdnsBridge.run inputs).returned = false) :
    BridgeLogged (MdnsBridge.run inputs) := by
  have kept : (MdnsBridge.run inputs).returned = false → BridgeLogged (MdnsBridge.run inputs) :=
    List.foldlRecOn (motive := fun bridge => bridge.returned = false → BridgeLogged bridge) inputs
      MdnsBridge.step (fun _ => ⟨fun _ => rfl, rfl, rfl⟩)
      fun bridge logged input _ running => step_logged logged running
  exact kept running

theorem step_running {bridge : MdnsBridge} {input : BridgeInput}
    (running : (bridge.step input).returned = false) : bridge.returned = false := by
  unfold MdnsBridge.step at running
  split_ifs at running with ended
  · exact running
  · simpa using ended

theorem removal_log {inputs : List BridgeInput} {fullname : String} {accepts : Nat}
    (processed : ((MdnsBridge.run inputs).step ⟨.serviceRemoved fullname, accepts⟩).returned =
      false) :
    ((MdnsBridge.run inputs).step ⟨.serviceRemoved fullname, accepts⟩).log =
      .removed fullname (latestResolution fullname (MdnsBridge.run inputs).log) ::
        (MdnsBridge.run inputs).log := by
  have running := step_running processed
  have logged := run_logged inputs running
  have removed : (MdnsBridge.run inputs).step ⟨.serviceRemoved fullname, accepts⟩ =
      (MdnsBridge.run inputs).remove fullname accepts := by
    simp [MdnsBridge.step, running]
  rw [removed] at processed ⊢
  exact (remove_logged logged processed).2

/-! ## Departures of a removed service -/

/-- A removal makes every address announced for the service since its previous removal
depart, exactly when its last resolution repeats them or they have departed with
another service meanwhile. What has not departed stays known and blocks its
rediscovery, and a departure is forgotten if nobody is listed with the address. -/
theorem mdns_departures_iff (inputs : List BridgeInput) (fullname : String) (accepts : Nat)
    (processed : ((MdnsBridge.run inputs).step ⟨.serviceRemoved fullname, accepts⟩).returned =
      false) :
    let before := MdnsBridge.run inputs
    let after := before.step ⟨.serviceRemoved fullname, accepts⟩
    (after.announced = loggedAnnouncements after.log ∧
      after.departed = loggedDepartures after.log ∧
      ((∀ address ∈ announcedFor fullname before.log,
          departedSince fullname address after.log = true) ↔
        ∀ address ∈ announcedFor fullname before.log,
          address ∈ latestResolution fullname before.log ∨
            departedSince fullname address before.log = true)) ∧
    ∀ (prims : Primitives) (address : PeerAddress) (first : NodeWorld prims),
      (∀ next, nodeStep first (.departure address) = some next →
        (address ∈ next.knownAddrs ↔
          address ∈ first.knownAddrs ∧ ∀ peer, ¬ Lists first.node.peers peer address)) ∧
      (HeldKnown address first → ∀ labels last,
        Run nodeStep (otherThanDeparture address) first labels last →
        address ∈ last.knownAddrs ∧
          ∀ shortId, nodeStep last (.arrival ⟨address, shortId⟩) = some last) := by
  intro before after
  have logged : BridgeLogged after :=
    step_logged (fun _ => run_logged inputs (step_running processed)) processed
  refine ⟨⟨logged.announcements, logged.departures, ?_⟩, ?_⟩
  · have log : after.log = .removed fullname (latestResolution fullname before.log) :: before.log :=
      removal_log processed
    rw [log]
    simp only [departedSince, Bool.or_eq_true, decide_eq_true_eq]
  · intro prims address first
    refine ⟨fun next taken => departure_known_iff taken, ?_⟩
    intro held labels last run
    have kept := held_until_departure held run
    exact ⟨kept.1.known, kept.2⟩

def sampleService : String := "laptop._pathweave._udp.local."

def privateIp (host : UInt8) : Octets 4 := ⟨[10, 0, 0, host], rfl⟩

def homeAddress : SocketAddr := .v4 (privateIp 2) 1

def cafeAddress : SocketAddr := .v4 (privateIp 3) 1

def resolvedTwice (addressesV4 : List (Octets 4)) : List BridgeInput :=
  [⟨.serviceResolved sampleService 1 [privateIp 2], 9⟩,
    ⟨.serviceResolved sampleService 1 addressesV4, 9⟩]

def bothAddresses : List (Octets 4) := [privateIp 3, privateIp 2]

theorem mdns_departures_repeated :
    announcedFor sampleService (MdnsBridge.run (resolvedTwice bothAddresses)).log =
        [cafeAddress, homeAddress, homeAddress] ∧
      ∀ address ∈ announcedFor sampleService (MdnsBridge.run (resolvedTwice bothAddresses)).log,
        departedSince sampleService address ((MdnsBridge.run (resolvedTwice bothAddresses)).step
          ⟨.serviceRemoved sampleService, 9⟩).log = true := by
  have processed := mdns_departures_iff (resolvedTwice bothAddresses) sampleService 9
    (by decide +kernel)
  have both : announcedFor sampleService (MdnsBridge.run (resolvedTwice bothAddresses)).log =
      [cafeAddress, homeAddress, homeAddress] := by decide +kernel
  have latest : latestResolution sampleService (MdnsBridge.run (resolvedTwice bothAddresses)).log =
      [cafeAddress, homeAddress] := by decide +kernel
  refine ⟨both, processed.1.2.2.mpr ?_⟩
  intro address listed
  left
  rw [both] at listed
  rw [latest]
  simpa using listed

def movedService : MdnsBridge :=
  (MdnsBridge.run (resolvedTwice [privateIp 3])).step ⟨.serviceRemoved sampleService, 9⟩

def discoverySteps (announcement : PeerAnnouncement) : List NodeLabel :=
  [.arrival announcement, .handshake 0 (sampleRemote 2),
    .exchange 0 (.bytes (encodeAddrExchange [])), .proceed 0, .proceed 0]

/-- What `peer_stream` does with everything the bridge has sent. -/
def movedServiceSteps : List NodeLabel :=
  movedService.announced.flatMap discoverySteps ++ movedService.departed.map .departure

/-- The service moves to another address before it is removed: its first address does
not depart and stays known. -/
theorem moved_service_stays_known :
    movedService.announced = [⟨.quic homeAddress, none⟩, ⟨.quic cafeAddress, none⟩] ∧
    movedService.departed = [.quic cafeAddress] ∧
    ∃ state, Run nodeStep anyStep freshNode movedServiceSteps state ∧
      .quic homeAddress ∈ state.knownAddrs ∧
      nodeStep state (.arrival ⟨.quic homeAddress, none⟩) = some state := by
  refine ⟨by decide +kernel, by decide +kernel, ?_⟩
  have finished : ((execute nodeStep freshNode movedServiceSteps).map fun state =>
      decide (PeerAddress.quic homeAddress ∈ state.knownAddrs)) = some true := by
    decide +kernel
  obtain ⟨state, reached, found⟩ := Option.map_eq_some_iff.mp finished
  have known : PeerAddress.quic homeAddress ∈ state.knownAddrs := of_decide_eq_true found
  exact ⟨state, run_of_execute reached, known, by simp [nodeStep, known]⟩

end Pathweave
