import Pathweave.SelfDialling

/-!
# Roles and dialled addresses of WiFi Direct

Two nodes compare their short ids, and the greater one becomes Group Owner. On Windows
the Group Owner does not dial. On Linux it does, and takes the value of `ip_addr` from
the properties of the group for the address of its peer, which is the address of its
own interface. The properties say of each node the address of its own interface and
that of the Group Owner.
-/

namespace Pathweave

open ByteStrings

set_option autoImplicit false

/-! ## The two backends -/

inductive P2pBackend where
  | linux
  | windows
  deriving DecidableEq

def wifiDirectPort : String := "47808"

/-- The greater short id becomes Group Owner; an unknown peer is taken for it. -/
def weAreGo (localShortId : Octets 8) : Option (Octets 8) → Bool
  | some theirId => decide (theirId.val < localShortId.val)
  | none => false

def goIntent (weAreGo : Bool) : Nat := if weAreGo then 15 else 0

/-- The string values of the `GroupStarted` signal that `connect` reads. -/
structure GroupProps where
  ipAddr : Option String
  ipAddrGo : Option String

inductive GroupAnswer where
  | timedOut
  | closed
  | started (props : GroupProps)

/-- How the system answers the calls of one `connect`; an error has a text. -/
structure P2pCalls where
  started : Bool
  p2pProxy : Except String Unit
  ifaceProxy : Except String Unit
  groupSignal : Except String Unit
  p2pConnect : String → Nat → Except String Unit
  group : GroupAnswer
  fromId : String → Except String Unit
  endpointPairs : Except String Unit
  firstPair : Except String Unit
  remoteHostName : Except String Unit
  displayName : Except String String
  tcp : Except String Unit

def attempt {Value : Type} (text : String) : Except String Value → Except Error Value
  | .ok value => .ok value
  | .error detail => .error (.transport (text ++ detail))

def wifiDirectId (peer : PeerAnnouncement) : Except Error String :=
  match peer.address with
  | .wifiDirect id => .ok id
  | _ => .error (.transport "WiFi Direct connect: wrong address type")

def requireStarted (calls : P2pCalls) : Except Error Unit :=
  if calls.started then .ok () else .error (.transport "WiFi Direct transport not started")

def groupProps : GroupAnswer → Except Error GroupProps
  | .timedOut => .error (.transport "WiFi Direct: P2P group formation timed out")
  | .closed => .error (.transport "WiFi Direct: GroupStarted stream closed")
  | .started props => .ok props

def extractGoIp (props : GroupProps) (weAreGo : Bool) : Except Error String :=
  match if weAreGo then props.ipAddr else props.ipAddrGo with
  | some ip => .ok ip
  | none =>
      let key := if weAreGo then "ip_addr" else "ip_addr_go"
      .error (.transport s!"WiFi Direct: '{key}' missing from GroupStarted properties")

section Connect

-- the parser of socket addresses, with the text of its error
variable (parse : String → Except String SocketAddr)

def socketAddress (whose ip : String) : Except Error SocketAddr :=
  attempt s!"WiFi Direct: invalid {whose} IP '{ip}': " (parse (ip ++ ":" ++ wifiDirectPort))

def linuxTarget (calls : P2pCalls) (localShortId : Octets 8) (peer : PeerAnnouncement) :
    Except Error SocketAddr := do
  let deviceId ← wifiDirectId peer
  requireStarted calls
  let go := weAreGo localShortId peer.shortId
  attempt "P2PDevice proxy failed: " calls.p2pProxy
  attempt "Interface proxy failed: " calls.ifaceProxy
  attempt "P2PGroupStarted signal failed: " calls.groupSignal
  attempt "P2PConnect failed: " (calls.p2pConnect deviceId (goIntent go))
  let props ← groupProps calls.group
  let peerIp ← extractGoIp props go
  socketAddress parse "peer" peerIp

def windowsTarget (calls : P2pCalls) (localShortId : Octets 8) (peer : PeerAnnouncement) :
    Except Error SocketAddr := do
  let deviceId ← wifiDirectId peer
  requireStarted calls
  if weAreGo localShortId peer.shortId then
    throw (.transport ("WiFi Direct: this node is GO — the remote side will initiate; " ++
      "the router should call accept() to receive the inbound connection"))
  attempt "WiFiDirectDevice::FromIdAsync failed: " (calls.fromId deviceId)
  attempt "GetConnectionEndpointPairs failed: " calls.endpointPairs
  attempt "no endpoint pairs: " calls.firstPair
  attempt "RemoteHostName failed: " calls.remoteHostName
  let remoteIp ← attempt "DisplayName failed: " calls.displayName
  socketAddress parse "remote" remoteIp

def connectTarget (backend : P2pBackend) (calls : P2pCalls) (localShortId : Octets 8)
    (peer : PeerAnnouncement) : Except Error SocketAddr :=
  match backend with
  | .linux => linuxTarget parse calls localShortId peer
  | .windows => windowsTarget parse calls localShortId peer

/-- `connect`: the address it dials, if it comes that far, and what it returns. -/
def wifiDirectConnect (backend : P2pBackend) (calls : P2pCalls) (localShortId : Octets 8)
    (peer : PeerAnnouncement) : Option SocketAddr × Except Error Unit :=
  match connectTarget parse backend calls localShortId peer with
  | .ok address => (some address, attempt "WiFi Direct TCP connect failed: " calls.tcp)
  | .error error => (none, .error error)

end Connect

/-! ## Two nodes of one group -/

structure P2pNode where
  backend : P2pBackend
  shortId : Octets 8
  deviceId : String
  interfaceIp : String

def P2pNode.announcement (node : P2pNode) : PeerAnnouncement :=
  ⟨.wifiDirect node.deviceId, some node.shortId⟩

/-- Two nodes with different short ids and no interface address in common. -/
structure P2pPair (parse : String → Except String SocketAddr) where
  node : Side → P2pNode
  distinct : (node .left).shortId ≠ (node .right).shortId
  apart : ∀ address, ¬ (parse ((node .left).interfaceIp ++ ":" ++ wifiDirectPort) = .ok address ∧
    parse ((node .right).interfaceIp ++ ":" ++ wifiDirectPort) = .ok address)

namespace P2pPair

variable {parse : String → Except String SocketAddr} (pair : P2pPair parse)

def takesGo (side : Side) : Bool :=
  weAreGo (pair.node side).shortId (some (pair.node side.other).shortId)

def BelongsTo (side : Side) (address : SocketAddr) : Prop :=
  parse ((pair.node side).interfaceIp ++ ":" ++ wifiDirectPort) = .ok address

def ownerIp (side : Side) : String :=
  if pair.takesGo side then (pair.node side).interfaceIp else (pair.node side.other).interfaceIp

/-- What the system says of the group is true: `ip_addr` is the address of the own
interface, `ip_addr_go` that of the Group Owner, and the remote host name that of the
other node. -/
structure Truthful (side : Side) (calls : P2pCalls) : Prop where
  ipAddr : ∀ props, calls.group = .started props → ∀ ip ∈ props.ipAddr,
    ip = (pair.node side).interfaceIp
  ipAddrGo : ∀ props, calls.group = .started props → ∀ ip ∈ props.ipAddrGo,
    ip = pair.ownerIp side
  remote : ∀ ip, calls.displayName = .ok ip → ip = (pair.node side.other).interfaceIp

def connect (side : Side) (calls : P2pCalls) : Option SocketAddr × Except Error Unit :=
  wifiDirectConnect parse (pair.node side).backend calls (pair.node side).shortId
    (pair.node side.other).announcement

end P2pPair

/-! ## Which address is dialled -/

theorem except_bind_ok {Value Result : Type} {first : Except Error Value}
    {rest : Value → Except Error Result} {result : Result}
    (passed : (first >>= rest) = .ok result) :
    ∃ value, first = .ok value ∧ rest value = .ok result := by
  cases first with
  | ok value => exact ⟨value, rfl, passed⟩
  | error error => cases passed

theorem except_then_ok {Result : Type} {first : Except Error Unit} {rest : Except Error Result}
    {result : Result} (passed : (first >>= fun _ => rest) = .ok result) : rest = .ok result := by
  obtain ⟨_, _, later⟩ := except_bind_ok passed
  exact later

theorem attempt_ok {Value : Type} {text : String} {answer : Except String Value} {value : Value}
    (passed : attempt text answer = .ok value) : answer = .ok value := by
  cases answer with
  | ok other =>
      cases passed
      rfl
  | error detail => cases passed

theorem group_props_ok {answer : GroupAnswer} {props : GroupProps}
    (formed : groupProps answer = .ok props) : answer = .started props := by
  cases answer with
  | timedOut => cases formed
  | closed => cases formed
  | started other =>
      cases formed
      rfl

theorem extract_go_ip_ok {props : GroupProps} {go : Bool} {ip : String}
    (extracted : extractGoIp props go = .ok ip) :
    (if go then props.ipAddr else props.ipAddrGo) = some ip := by
  unfold extractGoIp at extracted
  split at extracted
  · next found =>
      cases extracted
      exact found
  · cases extracted

section Targets

variable {parse : String → Except String SocketAddr} {calls : P2pCalls} {localShortId : Octets 8}
  {peer : PeerAnnouncement} {address : SocketAddr}

theorem linux_target_ok (dialled : linuxTarget parse calls localShortId peer = .ok address) :
    ∃ props ip, calls.group = .started props ∧
      (if weAreGo localShortId peer.shortId then props.ipAddr else props.ipAddrGo) = some ip ∧
      parse (ip ++ ":" ++ wifiDirectPort) = .ok address := by
  unfold linuxTarget at dialled
  obtain ⟨deviceId, _, afterId⟩ := except_bind_ok dialled
  have afterCalls := except_then_ok (except_then_ok (except_then_ok (except_then_ok
    (except_then_ok afterId))))
  obtain ⟨props, formed, afterGroup⟩ := except_bind_ok afterCalls
  obtain ⟨ip, extracted, parsed⟩ := except_bind_ok afterGroup
  exact ⟨props, ip, group_props_ok formed, extract_go_ip_ok extracted, attempt_ok parsed⟩

theorem windows_target_ok (dialled : windowsTarget parse calls localShortId peer = .ok address) :
    weAreGo localShortId peer.shortId = false ∧
      ∃ ip, calls.displayName = .ok ip ∧ parse (ip ++ ":" ++ wifiDirectPort) = .ok address := by
  unfold windowsTarget at dialled
  obtain ⟨deviceId, _, afterId⟩ := except_bind_ok dialled
  have afterStart := except_then_ok afterId
  cases role : weAreGo localShortId peer.shortId with
  | true =>
      rw [role] at afterStart
      cases afterStart
  | false =>
      rw [role] at afterStart
      have afterCalls := except_then_ok (except_then_ok (except_then_ok (except_then_ok
        afterStart)))
      obtain ⟨ip, named, parsed⟩ := except_bind_ok afterCalls
      exact ⟨rfl, ip, attempt_ok named, attempt_ok parsed⟩

theorem connect_dials {backend : P2pBackend}
    (dialled : (wifiDirectConnect parse backend calls localShortId peer).1 = some address) :
    connectTarget parse backend calls localShortId peer = .ok address := by
  unfold wifiDirectConnect at dialled
  split at dialled
  · next target =>
      cases dialled
      exact target
  · cases dialled

end Targets

/-! ## Roles -/

theorem octets_trichotomy {left right : Octets 8} (distinct : left ≠ right) :
    decide (left.val < right.val) = !decide (right.val < left.val) := by
  rw [Bool.eq_not_iff]
  intro same
  rw [decide_eq_decide] at same
  by_cases less : left.val < right.val
  · exact List.lt_asymm less (same.mp less)
  · have notGreater : ¬ right.val < left.val := fun greater => less (same.mpr greater)
    exact distinct (Subtype.ext (List.le_antisymm notGreater less))

namespace P2pPair

variable {parse : String → Except String SocketAddr} (pair : P2pPair parse)

theorem takes_go_other (side : Side) : pair.takesGo side.other = !pair.takesGo side := by
  cases side with
  | left => exact octets_trichotomy pair.distinct
  | right => exact octets_trichotomy pair.distinct.symm

theorem one_takes_go : ∃ side, pair.takesGo side = true ∧ pair.takesGo side.other = false := by
  have other : pair.takesGo .right = !pair.takesGo .left := pair.takes_go_other .left
  cases role : pair.takesGo .left with
  | true =>
      rw [role] at other
      exact ⟨.left, role, other⟩
  | false =>
      rw [role] at other
      exact ⟨.right, other, role⟩

theorem belongs_to_one {side : Side} {address : SocketAddr}
    (other : pair.BelongsTo side.other address) : ¬ pair.BelongsTo side address := by
  intro own
  cases side with
  | left => exact pair.apart address ⟨own, other⟩
  | right => exact pair.apart address ⟨other, own⟩

/-- A node that dials does so at the other node, or it is a Group Owner on Linux and
dials itself. -/
theorem dialled_belongs {side : Side} {calls : P2pCalls} {address : SocketAddr}
    (truthful : pair.Truthful side calls) (dialled : (pair.connect side calls).1 = some address) :
    pair.BelongsTo side.other address ∨
      pair.takesGo side = true ∧ (pair.node side).backend = .linux ∧
        pair.BelongsTo side address := by
  have target := connect_dials dialled
  cases backend : (pair.node side).backend with
  | linux =>
      rw [backend] at target
      obtain ⟨props, ip, formed, found, parsed⟩ := linux_target_ok target
      cases role : pair.takesGo side with
      | true =>
          have go : weAreGo (pair.node side).shortId (pair.node side.other).announcement.shortId =
              true := role
          rw [go, if_pos rfl] at found
          rw [truthful.ipAddr props formed ip found] at parsed
          exact .inr ⟨rfl, rfl, parsed⟩
      | false =>
          have client : weAreGo (pair.node side).shortId
              (pair.node side.other).announcement.shortId = false := role
          rw [client, if_neg Bool.false_ne_true] at found
          rw [truthful.ipAddrGo props formed ip found, ownerIp, role] at parsed
          exact .inl parsed
  | windows =>
      rw [backend] at target
      obtain ⟨_, ip, named, parsed⟩ := windows_target_ok target
      rw [truthful.remote ip named] at parsed
      exact .inl parsed

def smoothCalls (side : Side) : P2pCalls where
  started := true
  p2pProxy := .ok ()
  ifaceProxy := .ok ()
  groupSignal := .ok ()
  p2pConnect := fun _ _ => .ok ()
  group := .started ⟨some (pair.node side).interfaceIp, some (pair.ownerIp side)⟩
  fromId := fun _ => .ok ()
  endpointPairs := .ok ()
  firstPair := .ok ()
  remoteHostName := .ok ()
  displayName := .ok (pair.node side.other).interfaceIp
  tcp := .ok ()

theorem smooth_calls_truthful (side : Side) : pair.Truthful side (pair.smoothCalls side) where
  ipAddr := by
    rintro props formed ip found
    cases formed
    exact (Option.mem_some_iff.mp found).symm
  ipAddrGo := by
    rintro props formed ip found
    cases formed
    exact (Option.mem_some_iff.mp found).symm
  remote := by
    rintro ip named
    cases named
    rfl

theorem owner_dials_itself {side : Side} {address : SocketAddr}
    (role : pair.takesGo side = true) (backend : (pair.node side).backend = .linux)
    (own : pair.BelongsTo side address) :
    (pair.connect side (pair.smoothCalls side)).1 = some address := by
  have go : weAreGo (pair.node side).shortId (pair.node side.other).announcement.shortId = true :=
    role
  have parsed : parse ((pair.node side).interfaceIp ++ ":" ++ wifiDirectPort) = .ok address := own
  have target : linuxTarget parse (pair.smoothCalls side) (pair.node side).shortId
      (pair.node side.other).announcement = .ok address := by
    unfold linuxTarget
    rw [go]
    simp [wifiDirectId, P2pNode.announcement, requireStarted, smoothCalls, attempt, groupProps,
      extractGoIp, socketAddress, parsed, bind, Except.bind]
  simp only [connect, wifiDirectConnect, connectTarget, backend, target]

end P2pPair

/-- Exactly one node becomes Group Owner. Every dialled address is that of the other
node exactly when the Group Owner is no Linux node with a usable address. -/
theorem wifi_direct_roles_iff {parse : String → Except String SocketAddr}
    (pair : P2pPair parse) :
    (∃ side, pair.takesGo side = true ∧ pair.takesGo side.other = false) ∧
    ((∀ side calls, pair.Truthful side calls → ∀ address,
        (pair.connect side calls).1 = some address →
        pair.BelongsTo side.other address ∧ ¬ pair.BelongsTo side address) ↔
      ∀ side address, pair.takesGo side = true → (pair.node side).backend = .linux →
        ¬ pair.BelongsTo side address) := by
  refine ⟨pair.one_takes_go, ?_⟩
  constructor
  · intro always side address role backend own
    have dialled := pair.owner_dials_itself role backend own
    exact (always side _ (pair.smooth_calls_truthful side) address dialled).2 own
  · intro never side calls truthful address dialled
    rcases pair.dialled_belongs truthful dialled with other | ⟨role, backend, own⟩
    · exact ⟨other, pair.belongs_to_one other⟩
    · exact absurd own (never side address role backend)

/-- Two nodes of a group; the parser reads the two addresses that occur. -/
def groupParse (text : String) : Except String SocketAddr :=
  if text = "192.168.49.1:47808" then .ok (.v4 ⟨[192, 168, 49, 1], rfl⟩ 47808)
  else if text = "192.168.49.2:47808" then .ok (.v4 ⟨[192, 168, 49, 2], rfl⟩ 47808)
  else .error "invalid socket address syntax"

def ownerAddress : SocketAddr := .v4 ⟨[192, 168, 49, 1], rfl⟩ 47808

def ownerNode : P2pNode :=
  ⟨.linux, ⟨[2, 0, 0, 0, 0, 0, 0, 0], rfl⟩, "02:00:00:00:00:01", "192.168.49.1"⟩

def clientNode : P2pNode :=
  ⟨.linux, ⟨[1, 0, 0, 0, 0, 0, 0, 0], rfl⟩, "02:00:00:00:00:02", "192.168.49.2"⟩

def linuxPair : P2pPair groupParse where
  node side := if side = .left then ownerNode else clientNode
  distinct := by decide
  apart := by
    rintro address ⟨left, right⟩
    have first : groupParse ("192.168.49.1" ++ ":" ++ wifiDirectPort) = .ok ownerAddress := by
      decide +kernel
    have second : groupParse ("192.168.49.2" ++ ":" ++ wifiDirectPort) =
        .ok (.v4 ⟨[192, 168, 49, 2], rfl⟩ 47808) := by decide +kernel
    cases first.symm.trans left
    cases second.symm.trans right

/-- The Group Owner on Linux dials the address of its own interface. -/
theorem linux_owner_dials_itself :
    linuxPair.takesGo .left = true ∧ linuxPair.Truthful .left (linuxPair.smoothCalls .left) ∧
      (linuxPair.connect .left (linuxPair.smoothCalls .left)).1 = some ownerAddress ∧
      linuxPair.BelongsTo .left ownerAddress := by
  have role : linuxPair.takesGo .left = true := by decide
  have own : linuxPair.BelongsTo .left ownerAddress := by
    unfold P2pPair.BelongsTo
    decide +kernel
  exact ⟨role, linuxPair.smooth_calls_truthful .left, linuxPair.owner_dials_itself role rfl own,
    own⟩

end Pathweave
