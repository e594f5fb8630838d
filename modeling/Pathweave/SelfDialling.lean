import Pathweave.AddressRecords
import Pathweave.PeerTableEntries
import Pathweave.RouterCalls

/-!
# Addresses exchanged between two nodes

Both nodes have QUIC transports that report the address their endpoint is bound to. A
dialler offers the address of the transport it dials with; the other node lists what it
decodes and answers with the addresses of all its transports, which the dialler lists in
turn. Nothing compares the addresses of the other node with one's own, so they stay
apart exactly as far as the bound addresses do.
-/

namespace Pathweave

open ByteStrings GuardedRuns

set_option autoImplicit false

/-! ## Transports -/

structure QuicTransport where
  listenAddr : SocketAddr
  startedAddr : Option SocketAddr
  deriving DecidableEq

def QuicTransport.new (listenAddr : SocketAddr) : QuicTransport where
  listenAddr := listenAddr
  startedAddr := none

def QuicTransport.localAddresses (transport : QuicTransport) : List PeerAddress :=
  (transport.startedAddr.map PeerAddress.quic).toList

/-- An endpoint reports the address it was bound to, with a port of the system's choice
in place of port 0. -/
def endpointReports : SocketAddr → SocketAddr → Bool
  | .v4 ip port, .v4 reportedIp reportedPort =>
      decide (reportedIp = ip ∧ if port = 0 then reportedPort ≠ 0 else reportedPort = port)
  | .v6 ip port flowInfo scopeId, .v6 reportedIp reportedPort reportedFlow reportedScope =>
      decide (reportedIp = ip ∧ reportedFlow = flowInfo ∧ reportedScope = scopeId ∧
        if port = 0 then reportedPort ≠ 0 else reportedPort = port)
  | _, _ => false

/-! ## States -/

inductive Side where
  | left
  | right
  deriving DecidableEq

def Side.other : Side → Side
  | .left => .right
  | .right => .left

/-- A node and, as history, the addresses its endpoints were bound to, the addresses it
has listed for the other node after an exchange, and those listed for it otherwise. -/
structure QuicNode where
  peerId : PeerId
  transports : List QuicTransport
  peers : PeerTable
  bound : List SocketAddr
  exchanged : List PeerAddress
  listed : List PeerAddress

def QuicNode.localAddresses (node : QuicNode) : List PeerAddress :=
  node.transports.flatMap QuicTransport.localAddresses

inductive ExchangePhase where
  | offered (bytes : Bytes)
  | owing
  | answered (bytes : Bytes)
  deriving DecidableEq

structure ExchangeSession where
  dialler : Side
  phase : ExchangePhase
  deriving DecidableEq

structure QuicPair where
  node : Side → QuicNode
  exchanges : List ExchangeSession

def QuicPair.new (peerId : Side → PeerId) (listenAddrs : Side → List SocketAddr)
    (peers : Side → PeerTable) : QuicPair where
  node side :=
    { peerId := peerId side
      transports := (listenAddrs side).map QuicTransport.new
      peers := peers side
      bound := []
      exchanged := []
      listed := listedAddresses (announcementsOf (peers side) (peerId side.other)) }
  exchanges := []

inductive QuicLabel where
  | start (side : Side) (transport : Nat) (reported : SocketAddr)
  | stop (side : Side) (transport : Nat)
  /-- `connect` and `add_peer` for the other node. -/
  | list (side : Side) (announcement : PeerAnnouncement)
  | discover (side : Side) (announcement : PeerAnnouncement)
  | offer (side : Side) (transport : Nat)
  | receive (exchange : Nat)
  | respond (exchange : Nat)
  | merge (exchange : Nat)
  deriving DecidableEq

/-! ## Steps -/

def QuicNode.setStarted (node : QuicNode) (index : Nat) (transport : QuicTransport)
    (address : Option SocketAddr) : QuicNode :=
  { node with
    transports := node.transports.set index { transport with startedAddr := address }
    bound := node.bound ++ address.toList }

def QuicNode.mergeFrom (node : QuicNode) (other : PeerId) (bytes : Bytes) : QuicNode :=
  match decodeAddrExchange bytes with
  | .ok (some addresses) =>
      { node with
        peers := mergeExchanged node.peers other (some addresses)
        exchanged := node.exchanged ++ addresses }
  | _ => node

namespace QuicPair

variable (pair : QuicPair)

def setNode (side : Side) (node : QuicNode) : QuicPair :=
  { pair with node := Function.update pair.node side node }

def otherId (side : Side) : PeerId := (pair.node side.other).peerId

def setPhase (index : Nat) (exchange : ExchangeSession) (phase : ExchangePhase) : QuicPair :=
  { pair with exchanges := pair.exchanges.set index { exchange with phase := phase } }

def mergeAt (side : Side) (bytes : Bytes) : QuicPair :=
  pair.setNode side ((pair.node side).mergeFrom (pair.otherId side) bytes)

end QuicPair

def quicStep (pair : QuicPair) : QuicLabel → Option QuicPair
  | .start side index reported =>
      match (pair.node side).transports[index]? with
      | some transport =>
          if endpointReports transport.listenAddr reported then
            some (pair.setNode side ((pair.node side).setStarted index transport (some reported)))
          else none
      | none => none
  | .stop side index =>
      ((pair.node side).transports[index]?).map fun transport =>
        pair.setNode side ((pair.node side).setStarted index transport none)
  | .list side announcement =>
      some (pair.setNode side
        { pair.node side with
          peers := listAnnouncement (pair.node side).peers (pair.otherId side) announcement
          listed := (pair.node side).listed ++ [announcement.address] })
  | .discover side announcement =>
      some (pair.setNode side
        { pair.node side with
          peers := pushDiscovered (pair.node side).peers (pair.otherId side) announcement
          listed := (pair.node side).listed ++ [announcement.address] })
  | .offer side index =>
      ((pair.node side).transports[index]?).map fun transport =>
        { pair with
          exchanges := pair.exchanges ++
            [{ dialler := side
               phase := .offered (encodeAddrExchange transport.localAddresses) }] }
  | .receive index =>
      match pair.exchanges[index]? with
      | some exchange =>
          match exchange.phase with
          | .offered bytes =>
              if looksLikeControl bytes then
                some ((pair.mergeAt exchange.dialler.other bytes).setPhase index exchange .owing)
              else none
          | _ => none
      | none => none
  | .respond index =>
      match pair.exchanges[index]? with
      | some exchange =>
          if exchange.phase = .owing then
            some (pair.setPhase index exchange
              (.answered (encodeAddrExchange (pair.node exchange.dialler.other).localAddresses)))
          else none
      | none => none
  | .merge index =>
      match pair.exchanges[index]? with
      | some exchange =>
          match exchange.phase with
          | .answered bytes =>
              some { pair.mergeAt exchange.dialler bytes with
                exchanges := pair.exchanges.eraseIdx index }
          | _ => none
      | none => none

/-! ## What a step can do -/

inductive QuicMove (pair : QuicPair) : QuicLabel → QuicPair → Prop where
  | started {side : Side} {index : Nat} {reported : SocketAddr} {transport : QuicTransport} :
      QuicMove pair (.start side index reported)
        (pair.setNode side ((pair.node side).setStarted index transport (some reported)))
  | stopped {side : Side} {index : Nat} {transport : QuicTransport} :
      QuicMove pair (.stop side index)
        (pair.setNode side ((pair.node side).setStarted index transport none))
  | listed {side : Side} {announcement : PeerAnnouncement} :
      QuicMove pair (.list side announcement)
        (pair.setNode side
          { pair.node side with
            peers := listAnnouncement (pair.node side).peers (pair.otherId side) announcement
            listed := (pair.node side).listed ++ [announcement.address] })
  | discovered {side : Side} {announcement : PeerAnnouncement} :
      QuicMove pair (.discover side announcement)
        (pair.setNode side
          { pair.node side with
            peers := pushDiscovered (pair.node side).peers (pair.otherId side) announcement
            listed := (pair.node side).listed ++ [announcement.address] })
  | offered {side : Side} {index : Nat} {transport : QuicTransport}
      (present : (pair.node side).transports[index]? = some transport) :
      QuicMove pair (.offer side index)
        { pair with
          exchanges := pair.exchanges ++
            [{ dialler := side
               phase := .offered (encodeAddrExchange transport.localAddresses) }] }
  | received {index : Nat} {exchange : ExchangeSession} {bytes : Bytes}
      (present : pair.exchanges[index]? = some exchange)
      (phase : exchange.phase = .offered bytes) :
      QuicMove pair (.receive index)
        ((pair.mergeAt exchange.dialler.other bytes).setPhase index exchange .owing)
  | responded {index : Nat} {exchange : ExchangeSession}
      (present : pair.exchanges[index]? = some exchange) :
      QuicMove pair (.respond index)
        (pair.setPhase index exchange
          (.answered (encodeAddrExchange (pair.node exchange.dialler.other).localAddresses)))
  | merged {index : Nat} {exchange : ExchangeSession} {bytes : Bytes}
      (present : pair.exchanges[index]? = some exchange)
      (phase : exchange.phase = .answered bytes) :
      QuicMove pair (.merge index)
        { pair.mergeAt exchange.dialler bytes with exchanges := pair.exchanges.eraseIdx index }

theorem quic_step_moves {pair next : QuicPair} {label : QuicLabel}
    (taken : quicStep pair label = some next) : QuicMove pair label next := by
  cases label with
  | start side index reported =>
      simp only [quicStep] at taken
      split at taken
      · split_ifs at taken
        cases taken
        exact .started
      · cases taken
  | stop side index =>
      obtain ⟨transport, _, same⟩ := Option.map_eq_some_iff.mp taken
      subst same
      exact .stopped
  | list side announcement =>
      cases taken
      exact .listed
  | discover side announcement =>
      cases taken
      exact .discovered
  | offer side index =>
      obtain ⟨transport, present, same⟩ := Option.map_eq_some_iff.mp taken
      subst same
      exact .offered present
  | receive index =>
      simp only [quicStep] at taken
      split at taken
      · split at taken
        · split_ifs at taken
          cases taken
          exact .received (by assumption) (by assumption)
        · cases taken
      · cases taken
  | respond index =>
      simp only [quicStep] at taken
      split at taken
      · split_ifs at taken
        cases taken
        exact .responded (by assumption)
      · cases taken
  | merge index =>
      simp only [quicStep] at taken
      split at taken
      · split at taken
        · cases taken
          exact .merged (by assumption) (by assumption)
        · cases taken
      · cases taken

/-! ## Local addresses -/

def QuicNode.startedAddrs (node : QuicNode) : List SocketAddr :=
  node.transports.filterMap QuicTransport.startedAddr

theorem local_addresses_eq (node : QuicNode) :
    node.localAddresses = node.startedAddrs.map PeerAddress.quic := by
  unfold QuicNode.localAddresses QuicNode.startedAddrs
  induction node.transports with
  | nil => rfl
  | cons transport rest ih =>
      rw [List.flatMap_cons, ih, QuicTransport.localAddresses]
      cases started : transport.startedAddr <;> simp [started]

theorem mem_started_set {node : QuicNode} {index : Nat} {transport : QuicTransport}
    {address : Option SocketAddr} {other : SocketAddr}
    (started : other ∈ (node.setStarted index transport address).startedAddrs) :
    other ∈ node.startedAddrs ∨ address = some other := by
  obtain ⟨found, listed, same⟩ := List.mem_filterMap.mp started
  cases List.mem_or_eq_of_mem_set listed with
  | inl old => exact .inl (List.mem_filterMap.mpr ⟨found, old, same⟩)
  | inr new =>
      subst new
      exact .inr same

/-! ## What is sent and listed -/

def FrameOf (bound : List SocketAddr) (bytes : Bytes) : Prop :=
  ∃ addresses : List SocketAddr, bytes = encodeAddrExchange (addresses.map PeerAddress.quic) ∧
    ∀ address ∈ addresses, address ∈ bound

theorem frame_decoded {bound : List SocketAddr} {bytes : Bytes} (frame : FrameOf bound bytes) :
    ∃ decoded, decodeAddrExchange bytes = .ok (some decoded) ∧
      ∀ address ∈ decoded, ∃ origin ∈ bound, address = .quic origin.onWire := by
  obtain ⟨addresses, same, inBound⟩ := frame
  have reads : ∀ address ∈ addresses.map PeerAddress.quic,
      ReadsAs address address.onWire := by
    intro address listed
    obtain ⟨origin, _, equal⟩ := List.mem_map.mp listed
    subst equal
    exact reads_quic origin
  rw [same, decode_encode_addr_exchange reads]
  apply Exists.intro _
  apply And.intro rfl
  intro address listed
  obtain ⟨sent, taken, equal⟩ := List.mem_map.mp listed
  obtain ⟨origin, member, quic⟩ := List.mem_map.mp (List.mem_of_mem_take taken)
  subst quic
  exact ⟨origin, inBound origin member, equal.symm⟩

/-- A node whose list for the other comes from what the other was bound to, and none of
whose endpoints is bound to an address the other has. -/
structure NodeApart (node : QuicNode) (otherId : PeerId) (otherBound : List SocketAddr) :
    Prop where
  started : ∀ address ∈ node.startedAddrs, address ∈ node.bound
  exchanged : ∀ address ∈ node.exchanged, ∃ origin ∈ otherBound, address = .quic origin.onWire
  tables : ∀ address, Lists node.peers otherId address →
    address ∈ node.exchanged ∨ address ∈ node.listed
  apart : ∀ origin ∈ otherBound, origin.onWire ∉ node.startedAddrs

section NodeSteps

variable {node : QuicNode} {otherId : PeerId} {otherBound : List SocketAddr}

theorem apart_started {index : Nat} {transport : QuicTransport} {address : Option SocketAddr}
    (apart : NodeApart node otherId otherBound)
    (fresh : ∀ origin ∈ otherBound, address ≠ some origin.onWire) :
    NodeApart (node.setStarted index transport address) otherId otherBound where
  started := by
    intro other member
    cases mem_started_set member with
    | inl old => exact List.mem_append_left _ (apart.started other old)
    | inr same => exact List.mem_append_right _ (by simp [same])
  exchanged := apart.exchanged
  tables := apart.tables
  apart := by
    intro origin member clash
    cases mem_started_set clash with
    | inl old => exact apart.apart origin member old
    | inr same => exact fresh origin member same

theorem apart_other_started {address : Option SocketAddr}
    (apart : NodeApart node otherId otherBound)
    (fresh : ∀ reported ∈ address, reported.onWire ∉ node.startedAddrs) :
    NodeApart node otherId (otherBound ++ address.toList) where
  started := apart.started
  exchanged := by
    intro listed member
    obtain ⟨origin, known, same⟩ := apart.exchanged listed member
    exact ⟨origin, List.mem_append_left _ known, same⟩
  tables := apart.tables
  apart := by
    intro origin member
    cases List.mem_append.mp member with
    | inl old => exact apart.apart origin old
    | inr new => exact fresh origin (Option.mem_toList.mp new)

theorem apart_listed {peers : PeerTable} {address : PeerAddress}
    (apart : NodeApart node otherId otherBound)
    (added : ∀ {listed : PeerAddress}, Lists peers otherId listed ↔
      Lists node.peers otherId listed ∨ (otherId, listed) ∈ [(otherId, address)]) :
    NodeApart { node with peers := peers, listed := node.listed ++ [address] } otherId
      otherBound where
  started := apart.started
  exchanged := apart.exchanged
  tables := by
    intro other member
    cases added.mp member with
    | inl old =>
        cases apart.tables other old with
        | inl exchanged => exact .inl exchanged
        | inr listed => exact .inr (List.mem_append_left _ listed)
    | inr new =>
        cases List.mem_singleton.mp new
        exact .inr (List.mem_append_right _ (List.mem_singleton_self _))
  apart := apart.apart

theorem apart_merged {bytes : Bytes} (apart : NodeApart node otherId otherBound)
    (frame : FrameOf otherBound bytes) :
    NodeApart (node.mergeFrom otherId bytes) otherId otherBound := by
  obtain ⟨decoded, read, origins⟩ := frame_decoded frame
  unfold QuicNode.mergeFrom
  rw [read]
  constructor
  · exact apart.started
  · intro address member
    cases List.mem_append.mp member with
    | inl old => exact apart.exchanged address old
    | inr new => exact origins address new
  · intro address member
    cases (lists_upserted decoded).mp member with
    | inl old =>
        cases apart.tables address old with
        | inl exchanged => exact .inl (List.mem_append_left _ exchanged)
        | inr listed => exact .inr listed
    | inr new =>
        obtain ⟨claimed, listed, same⟩ := List.mem_map.mp new
        cases same
        exact .inl (List.mem_append_right _ listed)
  · exact apart.apart

end NodeSteps

/-! ## Both nodes -/

def ExchangeSession.message (exchange : ExchangeSession) : Option (Side × Bytes) :=
  match exchange.phase with
  | .offered bytes => some (exchange.dialler, bytes)
  | .owing => none
  | .answered bytes => some (exchange.dialler.other, bytes)

structure PairApart (pair : QuicPair) : Prop where
  nodes : ∀ side, NodeApart (pair.node side) (pair.otherId side) (pair.node side.other).bound
  frames : ∀ exchange ∈ pair.exchanges, ∀ sender bytes,
    exchange.message = some (sender, bytes) → FrameOf (pair.node sender).bound bytes

theorem Side.other_other (side : Side) : side.other.other = side := by
  cases side <;> rfl

variable {pair next : QuicPair} {label : QuicLabel} {side : Side} {node : QuicNode}

theorem node_set_same : (pair.setNode side node).node side = node :=
  Function.update_self ..

theorem node_set_other : (pair.setNode side node).node side.other = pair.node side.other := by
  apply Function.update_of_ne
  cases side <;> decide

theorem nodes_apart_set (sameId : node.peerId = (pair.node side).peerId)
    (own : NodeApart node (pair.otherId side) (pair.node side.other).bound)
    (opposite : NodeApart (pair.node side.other) (pair.otherId side.other) node.bound)
    (which : Side) :
    NodeApart ((pair.setNode side node).node which) ((pair.setNode side node).otherId which)
      ((pair.setNode side node).node which.other).bound := by
  unfold QuicPair.otherId at own opposite ⊢
  rw [Side.other_other, ← sameId] at opposite
  by_cases same : which = side
  · subst same
    rw [node_set_same, node_set_other]
    exact own
  · have other : which = side.other := by
      cases which <;> cases side <;> first | rfl | exact absurd rfl same
    subst other
    rw [Side.other_other, node_set_same, node_set_other]
    exact opposite

theorem frame_weaken {bound grown : List SocketAddr} {bytes : Bytes} (frame : FrameOf bound bytes)
    (subset : ∀ address ∈ bound, address ∈ grown) : FrameOf grown bytes := by
  obtain ⟨addresses, same, inside⟩ := frame
  exact ⟨addresses, same, fun address listed => subset address (inside address listed)⟩

theorem bound_set (kept : ∀ address ∈ (pair.node side).bound, address ∈ node.bound)
    (which : Side) : ∀ address ∈ (pair.node which).bound,
      address ∈ ((pair.setNode side node).node which).bound := by
  intro address member
  by_cases same : which = side
  · subst same
    rw [node_set_same]
    exact kept address member
  · have unchanged : (pair.setNode side node).node which = pair.node which :=
      Function.update_of_ne same _ _
    rw [unchanged]
    exact member

theorem pair_apart_set (apart : PairApart pair)
    (sameId : node.peerId = (pair.node side).peerId)
    (kept : ∀ address ∈ (pair.node side).bound, address ∈ node.bound)
    (own : NodeApart node (pair.otherId side) (pair.node side.other).bound)
    (opposite : NodeApart (pair.node side.other) (pair.otherId side.other) node.bound) :
    PairApart (pair.setNode side node) where
  nodes := nodes_apart_set sameId own opposite
  frames := by
    intro exchange listed sender bytes message
    exact frame_weaken (apart.frames exchange listed sender bytes message) (bound_set kept sender)

theorem opposite_apart (apart : PairApart pair) (side : Side) :
    NodeApart (pair.node side.other) (pair.otherId side.other) (pair.node side).bound := by
  have opposite := apart.nodes side.other
  rw [Side.other_other] at opposite
  exact opposite

/-- A start reports an address that the other node's endpoints never had, and that no
endpoint of the other node has once it has been on the wire. -/
def startsApart (pair : QuicPair) : QuicLabel → Prop
  | .start side _ reported =>
      (∀ origin ∈ (pair.node side.other).bound, origin.onWire ≠ reported) ∧
        PeerAddress.quic reported.onWire ∉ (pair.node side.other).localAddresses
  | _ => True

instance (pair : QuicPair) (label : QuicLabel) : Decidable (startsApart pair label) := by
  unfold startsApart
  cases label <;> infer_instance

theorem pair_apart_merged (apart : PairApart pair) {bytes : Bytes}
    (frame : FrameOf (pair.node side.other).bound bytes) : PairApart (pair.mergeAt side bytes) := by
  have unchanged : ((pair.node side).mergeFrom (pair.otherId side) bytes).peerId =
      (pair.node side).peerId ∧
      ((pair.node side).mergeFrom (pair.otherId side) bytes).bound = (pair.node side).bound := by
    unfold QuicNode.mergeFrom
    split <;> exact ⟨rfl, rfl⟩
  apply pair_apart_set apart unchanged.1
  · rw [unchanged.2]
    exact fun _ => id
  · exact apart_merged (apart.nodes side) frame
  · rw [unchanged.2]
    exact opposite_apart apart side

theorem pair_apart_exchanges (apart : PairApart pair) {exchanges : List ExchangeSession}
    (sent : ∀ exchange ∈ exchanges, exchange ∈ pair.exchanges ∨
      ∀ sender bytes, exchange.message = some (sender, bytes) →
        FrameOf (pair.node sender).bound bytes) :
    PairApart { pair with exchanges := exchanges } where
  nodes := apart.nodes
  frames := by
    intro exchange listed
    cases sent exchange listed with
    | inl old => exact apart.frames exchange old
    | inr new => exact new

theorem pair_apart_phase (apart : PairApart pair) (index : Nat) {exchange : ExchangeSession}
    {phase : ExchangePhase}
    (sent : ∀ sender bytes, ({ exchange with phase := phase } : ExchangeSession).message =
      some (sender, bytes) → FrameOf (pair.node sender).bound bytes) :
    PairApart (pair.setPhase index exchange phase) := by
  apply pair_apart_exchanges apart
  intro later member
  apply (List.mem_or_eq_of_mem_set member).imp_right
  intro new
  rw [new]
  exact sent

theorem frame_of_local (apart : PairApart pair) (side : Side) :
    FrameOf (pair.node side).bound (encodeAddrExchange (pair.node side).localAddresses) := by
  rw [local_addresses_eq]
  exact ⟨(pair.node side).startedAddrs, rfl, (apart.nodes side).started⟩

theorem frame_of_transport (apart : PairApart pair) {index : Nat} {transport : QuicTransport}
    (present : (pair.node side).transports[index]? = some transport) :
    FrameOf (pair.node side).bound (encodeAddrExchange transport.localAddresses) := by
  apply Exists.intro transport.startedAddr.toList
  constructor
  · unfold QuicTransport.localAddresses
    cases transport.startedAddr <;> rfl
  · intro address started
    apply (apart.nodes side).started
    apply List.mem_filterMap.mpr
    exact ⟨transport, List.mem_of_getElem? present, Option.mem_toList.mp started⟩

theorem pair_apart_step (apart : PairApart pair) (allowed : startsApart pair label)
    (moved : QuicMove pair label next) : PairApart next := by
  cases moved with
  | @started side index reported transport =>
      apply pair_apart_set apart
      · rfl
      · exact fun _ => List.mem_append_left _
      · apply apart_started (apart.nodes side)
        intro origin member same
        exact allowed.1 origin member (Option.some.inj same).symm
      · apply apart_other_started (opposite_apart apart side)
        intro address same clash
        cases same
        apply allowed.2
        rw [local_addresses_eq]
        exact List.mem_map_of_mem clash
  | @stopped side index transport =>
      apply pair_apart_set apart
      · rfl
      · exact fun _ => List.mem_append_left _
      · apply apart_started (apart.nodes side)
        intro origin member same
        cases same
      · apply apart_other_started (opposite_apart apart side)
        intro address same
        cases same
  | @listed side announcement =>
      apply pair_apart_set apart
      · rfl
      · exact fun _ => id
      · exact apart_listed (apart.nodes side) (lists_announced announcement)
      · exact opposite_apart apart side
  | @discovered side announcement =>
      apply pair_apart_set apart
      · rfl
      · exact fun _ => id
      · exact apart_listed (apart.nodes side) (lists_discovered announcement)
      · exact opposite_apart apart side
  | offered present =>
      apply pair_apart_exchanges apart
      intro exchange member
      cases List.mem_append.mp member with
      | inl old => exact .inl old
      | inr new =>
          rw [List.mem_singleton.mp new]
          apply Or.inr
          intro sender bytes message
          cases message
          exact frame_of_transport apart present
  | @received index exchange bytes present phase =>
      have frame : FrameOf (pair.node exchange.dialler.other.other).bound bytes := by
        rw [Side.other_other]
        apply apart.frames exchange (List.mem_of_getElem? present)
        simp [ExchangeSession.message, phase]
      apply pair_apart_phase (pair_apart_merged apart frame)
      intro sender sent message
      cases message
  | @responded index exchange present =>
      apply pair_apart_phase apart
      intro sender sent message
      cases message
      exact frame_of_local apart exchange.dialler.other
  | @merged index exchange bytes present phase =>
      have frame : FrameOf (pair.node exchange.dialler.other).bound bytes := by
        apply apart.frames exchange (List.mem_of_getElem? present)
        simp [ExchangeSession.message, phase]
      apply pair_apart_exchanges (pair_apart_merged apart frame)
      intro later member
      exact .inl (List.mem_of_mem_eraseIdx member)

/-! ## No node dials itself -/

/-- None of the addresses exchanged is one of the node's own, and a call to the other
node dials one of its own only if it was listed otherwise. -/
structure NeverDialsItself (pair : QuicPair) (side : Side) : Prop where
  exchanged : ∀ address ∈ (pair.node side).exchanged, address ∉ (pair.node side).localAddresses
  dialled : ∀ transports, ∀ candidate ∈ candidatesFor transports
    (announcementsOf (pair.node side).peers (pair.otherId side)),
    candidate.2.address ∈ (pair.node side).localAddresses →
      candidate.2.address ∈ (pair.node side).listed

theorem mem_candidates {transports : List TransportEntry} {announcements : List PeerAnnouncement}
    {candidate : TransportEntry × PeerAnnouncement}
    (member : candidate ∈ candidatesFor transports announcements) :
    candidate.2 ∈ announcements := by
  obtain ⟨entry, _, matched⟩ := List.mem_flatMap.mp (List.mem_mergeSort.mp member)
  obtain ⟨announcement, listed, same⟩ := List.mem_filterMap.mp matched
  split_ifs at same
  cases same
  exact listed

theorem exchanged_not_local (apart : PairApart pair) (side : Side) :
    ∀ address ∈ (pair.node side).exchanged, address ∉ (pair.node side).localAddresses := by
  intro address member clash
  obtain ⟨origin, known, same⟩ := (apart.nodes side).exchanged address member
  rw [same, local_addresses_eq] at clash
  obtain ⟨started, listed, equal⟩ := List.mem_map.mp clash
  cases equal
  exact (apart.nodes side).apart origin known listed

theorem pair_apart_new (peerId : Side → PeerId) (listenAddrs : Side → List SocketAddr)
    (peers : Side → PeerTable) : PairApart (.new peerId listenAddrs peers) where
  nodes := by
    intro side
    have unstarted : ((QuicPair.new peerId listenAddrs peers).node side).startedAddrs = [] := by
      simp [QuicPair.new, QuicNode.startedAddrs, QuicTransport.new]
    constructor
    · rw [unstarted]
      intro address member
      cases member
    · intro address member
      cases member
    · exact fun address member => .inr member
    · intro origin member
      cases member
  frames := by
    intro exchange member
    cases member

theorem exchange_never_dials_itself {peerId : Side → PeerId}
    {listenAddrs : Side → List SocketAddr} {peers : Side → PeerTable} {labels : List QuicLabel}
    (run : Run quicStep startsApart (.new peerId listenAddrs peers) labels pair) (side : Side) :
    NeverDialsItself pair side := by
  have apart : PairApart pair := by
    apply run_invariant PairApart _ run (pair_apart_new peerId listenAddrs peers)
    intro state label next held allowed taken
    exact pair_apart_step held allowed (quic_step_moves taken)
  constructor
  · exact exchanged_not_local apart side
  · intro transports candidate member clash
    have dialled := List.mem_map_of_mem (f := PeerAnnouncement.address) (mem_candidates member)
    cases (apart.nodes side).tables candidate.2.address dialled with
    | inl exchanged => exact absurd clash (exchanged_not_local apart side _ exchanged)
    | inr listed => exact listed

/-! ## Wildcard addresses -/

/-- `0.0.0.0` with a port. -/
def wildcard (port : UInt16) : SocketAddr := .v4 ⟨[0, 0, 0, 0], rfl⟩ port

def pairId : Side → PeerId
  | .left => samplePeer 1
  | .right => samplePeer 2

def wildcardPair (leftPort rightPort : UInt16) : QuicPair :=
  .new pairId (fun side => [wildcard (if side = .left then leftPort else rightPort)]) fun _ => ∅

/-- Both transports start, and the left node dials the right one. -/
def dialOnce (leftPort rightPort : UInt16) : List QuicLabel :=
  [.start .left 0 (wildcard leftPort), .start .right 0 (wildcard rightPort), .offer .left 0,
    .receive 0, .respond 0, .merge 0]

theorem exchange_never_dials_itself_other_port :
    ∃ pair, Run quicStep startsApart (wildcardPair 9001 9002) (dialOnce 9001 9002) pair ∧
      (pair.node .left).exchanged = [.quic (wildcard 9002)] ∧ NeverDialsItself pair .left := by
  have finished : ((execute (fun pair label =>
      if startsApart pair label then quicStep pair label else none) (wildcardPair 9001 9002)
        (dialOnce 9001 9002)).map fun pair => (pair.node .left).exchanged) =
      some [.quic (wildcard 9002)] := by
    decide +kernel
  obtain ⟨pair, reached, found⟩ := Option.map_eq_some_iff.mp finished
  have run := run_of_execute_guarded reached
  exact ⟨pair, run, found, exchange_never_dials_itself run .left⟩

def NeverSelfDialling : Prop :=
  ∀ (peerId : Side → PeerId) (listenAddrs : Side → List SocketAddr) (peers : Side → PeerTable)
    (labels : List QuicLabel) (pair : QuicPair), peerId .left ≠ peerId .right →
    Run quicStep anyStep (.new peerId listenAddrs peers) labels pair →
    ∀ side, NeverDialsItself pair side

/-- Both nodes listen on the wildcard address with the same port, and each lists it for
the other. -/
theorem wildcard_dials_itself : ¬NeverSelfDialling := by
  intro never
  have finished : ((execute quicStep (wildcardPair 9001 9001) (dialOnce 9001 9001)).map
      fun pair => ((pair.node .left).exchanged, (pair.node .left).localAddresses)) =
      some ([.quic (wildcard 9001)], [.quic (wildcard 9001)]) := by
    decide +kernel
  obtain ⟨pair, reached, found⟩ := Option.map_eq_some_iff.mp finished
  simp only [Prod.mk.injEq] at found
  have apart := never _ _ _ _ pair (by decide) (run_of_execute reached) .left
  apply apart.exchanged (.quic (wildcard 9001))
  · simp [found.1]
  · simp [found.2]

end Pathweave
