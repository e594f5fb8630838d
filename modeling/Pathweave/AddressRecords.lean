import Pathweave.AddressExchange
import Pathweave.StringBytes

/-!
# Reading back an address exchange

A frame is read record by record, so what a whole frame is read as follows from what
each of its records is read as. Two things are lost on the wire: flow info and scope id
of a socket address, and what an id has beyond 255 bytes. The cut does not look at
characters, and an id that is no string any more makes the receiver drop all addresses.
-/

namespace Pathweave

open ByteStrings StringBytes

set_option autoImplicit false

def ReadsAs (address decoded : PeerAddress) : Prop :=
  ∀ before rest, decodeAddress (before ++ (encodeAddress address ++ rest)) before.length =
    .ok (some (decoded, before.length + (encodeAddress address).length))

def SocketAddr.onWire : SocketAddr → SocketAddr
  | .v4 ip port => .v4 ip port
  | .v6 ip port _ _ => .v6 ip port 0 0

/-- Only socket addresses lose something on the wire, as long as ids are not cut off. -/
def PeerAddress.onWire : PeerAddress → PeerAddress
  | .quic address => .quic address.onWire
  | address => address

def cutId (id : String) : Option String := fromUtf8 ((strBytes id).take 255)

def PeerAddress.received : PeerAddress → Option PeerAddress
  | .quic address => some (.quic address.onWire)
  | .ble id => (cutId id).map .ble
  | .wifiDirect id => (cutId id).map .wifiDirect
  | .bleAdvertising id => (cutId id).map .bleAdvertising

/-! ## One record -/

section Records

variable (before : Bytes) (tag : UInt8) (rest : Bytes)

theorem decode_socket_record {size : Nat} (wrap : Octets size → UInt16 → SocketAddr)
    (ip : Octets size) (port : UInt16) :
    decodeSocket (before ++ tag :: (ip.val ++ (encodeBE 2 port.toNat ++ rest))) (before.length + 1)
      size wrap = .ok (some (.quic (wrap ip port), before.length + 1 + size + 2)) := by
  have start : before.length + 1 = (before ++ [tag]).length := by simp
  have ipSize := ip.property
  rw [List.append_cons, start]
  have long : ¬ (before ++ [tag] ++ (ip.val ++ (encodeBE 2 port.toNat ++ rest))).length <
      (before ++ [tag]).length + size + 2 := by
    simp only [List.length_append, encodeBE_length]
    omega
  have portRead : slice (before ++ [tag] ++ (ip.val ++ (encodeBE 2 port.toNat ++ rest)))
      ((before ++ [tag]).length + size) ((before ++ [tag]).length + size + 2) =
        .ok (encodeBE 2 port.toNat) := by
    rw [← List.append_assoc (before ++ [tag])]
    apply slice_append (before ++ [tag] ++ ip.val)
    · simp only [List.length_append, ipSize]
    · rw [encodeBE_length]
  have portSame : UInt16.ofNat (decodeBE (encodeBE 2 port.toNat)) = port := by
    have fits : port.toNat < 256 ^ 2 := port.toNat_lt
    rw [decodeBE_encodeBE, Nat.mod_eq_of_lt fits, UInt16.ofNat_toNat]
  rw [decodeSocket, if_neg long, arrayAt_append rfl, checked_bind_ok, portRead,
    checked_bind_ok, portSame]

theorem decode_string_record (wrap : String → PeerAddress) {size : UInt8} {text : Bytes}
    (exact : text.length = size.toNat) :
    decodeStringId (before ++ tag :: size :: (text ++ rest)) (before.length + 1) wrap =
      .ok ((fromUtf8 text).map fun id => (wrap id, before.length + 2 + text.length)) := by
  have start : before.length + 1 = (before ++ [tag]).length := by simp
  rw [List.append_cons, start]
  have long : ¬ (before ++ [tag] ++ size :: (text ++ rest)).length ≤ (before ++ [tag]).length := by
    simp
  have enough : ¬ (before ++ [tag] ++ size :: (text ++ rest)).length <
      (before ++ [tag]).length + 1 + size.toNat := by
    simp only [List.length_append, List.length_cons, List.length_nil]
    omega
  have textRead : slice (before ++ [tag] ++ size :: (text ++ rest)) ((before ++ [tag]).length + 1)
      ((before ++ [tag]).length + 1 + size.toNat) = .ok text := by
    rw [List.append_cons (before ++ [tag]), ← exact]
    apply slice_append (before ++ [tag] ++ [size])
    · simp
    · rfl
  rw [decodeStringId, if_neg long, byteAt_append rfl, checked_bind_ok]
  dsimp only
  rw [if_neg enough, textRead, checked_bind_ok, fromUtf8]
  cases String.fromUTF8? text.toByteArray with
  | none => rfl
  | some id => simp [exact]

theorem decode_address_tag (tail : Bytes) :
    decodeAddress (before ++ tag :: tail) before.length =
      if tag = 0x00 then decodeSocket (before ++ tag :: tail) (before.length + 1) 4 .v4
      else if tag = 0x01 then
        decodeSocket (before ++ tag :: tail) (before.length + 1) 16 fun ip port => .v6 ip port 0 0
      else if tag = 0x02 then decodeStringId (before ++ tag :: tail) (before.length + 1) .ble
      else if tag = 0x03 then
        decodeStringId (before ++ tag :: tail) (before.length + 1) .wifiDirect
      else if tag = 0x04 then
        decodeStringId (before ++ tag :: tail) (before.length + 1) .bleAdvertising
      else .ok none := by
  have tagged : ¬ (before ++ tag :: tail).length ≤ before.length := by simp
  rw [decodeAddress, if_neg tagged, byteAt_append rfl, checked_bind_ok]

theorem decode_cut_id (wrap : String → PeerAddress) (id : String) :
    decodeStringId (before ++ (encodeStringId tag id ++ rest)) (before.length + 1) wrap =
      .ok ((cutId id).map fun left => (wrap left,
        before.length + (encodeStringId tag id).length)) := by
  have shape : encodeStringId tag id =
      tag :: UInt8.ofNat (min (strBytes id).length 255) :: (strBytes id).take 255 := by
    have cut : (strBytes id).take (min (strBytes id).length 255) = (strBytes id).take 255 := by
      rw [List.take_eq_take_iff]
      omega
    rw [← cut]
    rfl
  have exact : ((strBytes id).take 255).length =
      (UInt8.ofNat (min (strBytes id).length 255)).toNat := by
    rw [UInt8.toNat_ofNat', List.length_take]
    omega
  rw [shape, List.cons_append, List.cons_append, decode_string_record before tag rest wrap exact,
    cutId]
  simp only [List.length_cons, Nat.add_assoc, Nat.add_comm 2]

end Records

theorem decode_address_record (address : PeerAddress) (before rest : Bytes) :
    decodeAddress (before ++ (encodeAddress address ++ rest)) before.length =
      .ok (address.received.map fun decoded =>
        (decoded, before.length + (encodeAddress address).length)) := by
  cases address with
  | quic address =>
      cases address with
      | v4 ip port =>
          have ipSize := ip.property
          simp only [encodeAddress, List.cons_append, List.append_assoc]
          rw [decode_address_tag, if_pos rfl, decode_socket_record]
          simp only [PeerAddress.received, SocketAddr.onWire, List.length_cons, List.length_append,
            ipSize, encodeBE_length, Option.map_some]
      | v6 ip port flowInfo scopeId =>
          have ipSize := ip.property
          simp only [encodeAddress, List.cons_append, List.append_assoc]
          rw [decode_address_tag, if_neg (by decide), if_pos rfl, decode_socket_record]
          simp only [PeerAddress.received, SocketAddr.onWire, List.length_cons, List.length_append,
            ipSize, encodeBE_length, Option.map_some]
  | ble id =>
      have read := decode_cut_id before 0x02 rest .ble id
      rw [encodeAddress, PeerAddress.received, Option.map_map]
      simp only [encodeStringId, List.cons_append] at read ⊢
      rw [decode_address_tag]
      exact read
  | wifiDirect id =>
      have read := decode_cut_id before 0x03 rest .wifiDirect id
      rw [encodeAddress, PeerAddress.received, Option.map_map]
      simp only [encodeStringId, List.cons_append] at read ⊢
      rw [decode_address_tag]
      exact read
  | bleAdvertising id =>
      have read := decode_cut_id before 0x04 rest .bleAdvertising id
      rw [encodeAddress, PeerAddress.received, Option.map_map]
      simp only [encodeStringId, List.cons_append] at read ⊢
      rw [decode_address_tag]
      exact read

theorem reads_as_iff {address decoded : PeerAddress} :
    ReadsAs address decoded ↔ address.received = some decoded := by
  constructor
  · intro reads
    have read := reads [] []
    rw [decode_address_record, Except.ok.injEq, Option.map_eq_some_iff] at read
    obtain ⟨image, received, same⟩ := read
    rw [received, (Prod.mk.inj same).1]
  · intro received before rest
    rw [decode_address_record, received, Option.map_some]

theorem reads_quic (address : SocketAddr) :
    ReadsAs (.quic address) (PeerAddress.quic address).onWire :=
  reads_as_iff.mpr rfl

/-! ## Frames of records -/

theorem decode_addresses_received (addresses : List PeerAddress) (before rest : Bytes)
    (known : List PeerAddress) :
    decodeAddresses (before ++ (addresses.flatMap encodeAddress ++ rest)) addresses.length
      before.length known =
        .ok ((addresses.mapM PeerAddress.received).map fun read => known ++ read) := by
  induction addresses generalizing before known with
  | nil => simp [decodeAddresses]
  | cons address later ih =>
      rw [List.flatMap_cons, List.length_cons, decodeAddresses, List.append_assoc,
        decode_address_record, checked_bind_ok, List.mapM_cons]
      cases received : address.received with
      | none => rfl
      | some decoded =>
          have tail := ih (before ++ encodeAddress address) (known ++ [decoded])
          rw [List.append_assoc, List.length_append] at tail
          simp only [Option.map_some, tail]
          cases later.mapM PeerAddress.received with
          | none => rfl
          | some read => simp

theorem decode_addr_exchange_start (count : UInt8) (tail : Bytes) :
    decodeAddrExchange (addrExchangeCtrl ++ count :: tail) =
      decodeAddresses (addrExchangeCtrl ++ count :: tail) count.toNat 9 [] := by
  have long : ¬ (addrExchangeCtrl ++ count :: tail).length < 9 := by simp [addrExchangeCtrl]
  have control : slice (addrExchangeCtrl ++ count :: tail) 0 8 = .ok addrExchangeCtrl :=
    slice_append [] addrExchangeCtrl _ rfl rfl
  have counted : byteAt (addrExchangeCtrl ++ count :: tail) 8 = .ok count := byteAt_append rfl
  rw [decodeAddrExchange, if_neg long, control, checked_bind_ok, if_neg (by simp), counted,
    checked_bind_ok]

theorem decode_counted_addresses {addresses : List PeerAddress} {count : UInt8}
    (counted : addresses.length = count.toNat) (rest : Bytes) :
    decodeAddrExchange
        (addrExchangeCtrl ++ count :: (addresses.flatMap encodeAddress ++ rest)) =
      .ok (addresses.mapM PeerAddress.received) := by
  have records := decode_addresses_received addresses (addrExchangeCtrl ++ [count]) rest []
  rw [List.append_assoc, List.singleton_append, counted] at records
  rw [decode_addr_exchange_start]
  refine Eq.trans records ?_
  simp

/-- At most 255 addresses are sent. -/
theorem decode_encode_received (addresses : List PeerAddress) :
    decodeAddrExchange (encodeAddrExchange addresses) =
      .ok ((addresses.take 255).mapM PeerAddress.received) := by
  have counted : (addresses.take 255).length =
      (UInt8.ofNat (min addresses.length 255)).toNat := by
    rw [UInt8.toNat_ofNat', List.length_take]
    omega
  have read := decode_counted_addresses counted []
  rw [List.append_nil] at read
  exact read

theorem map_m_received_iff {addresses read : List PeerAddress} :
    addresses.mapM PeerAddress.received = some read ↔
      List.Forall₂ (fun address decoded => address.received = some decoded) addresses read := by
  induction addresses generalizing read with
  | nil => cases read <;> simp
  | cons address later ih =>
      rw [List.mapM_cons, List.forall₂_cons_left_iff]
      constructor
      · intro all
        simp only [Option.bind_eq_bind, Option.bind_eq_some_iff, Option.pure_def,
          Option.some.injEq] at all
        obtain ⟨decoded, first, tail, others, same⟩ := all
        exact ⟨decoded, tail, first, ih.mp others, same.symm⟩
      · intro given
        obtain ⟨decoded, tail, first, others, rfl⟩ := given
        rw [first, ih.mpr others]
        rfl

theorem map_m_received {image : PeerAddress → PeerAddress} {addresses : List PeerAddress}
    (received : ∀ address ∈ addresses, address.received = some (image address)) :
    addresses.mapM PeerAddress.received = some (addresses.map image) := by
  rw [map_m_received_iff, List.forall₂_map_right_iff, List.forall₂_same]
  exact received

theorem decode_encode_addr_exchange {image : PeerAddress → PeerAddress}
    {addresses : List PeerAddress}
    (reads : ∀ address ∈ addresses, ReadsAs address (image address)) :
    decodeAddrExchange (encodeAddrExchange addresses) =
      .ok (some ((addresses.take 255).map image)) := by
  rw [decode_encode_received, map_m_received]
  exact fun address listed => reads_as_iff.mp (reads address (List.mem_of_mem_take listed))

/-! ## Addresses that survive -/

def PeerAddress.WireForm : PeerAddress → Prop
  | .quic (.v4 _ _) => True
  | .quic (.v6 _ _ flowInfo scopeId) => flowInfo = 0 ∧ scopeId = 0
  | .ble id => id.utf8ByteSize ≤ 255
  | .wifiDirect id => id.utf8ByteSize ≤ 255
  | .bleAdvertising id => id.utf8ByteSize ≤ 255

instance : DecidablePred PeerAddress.WireForm
  | .quic (.v4 _ _) => .isTrue trivial
  | .quic (.v6 _ _ flowInfo scopeId) =>
      inferInstanceAs (Decidable (flowInfo = 0 ∧ scopeId = 0))
  | .ble id => inferInstanceAs (Decidable (id.utf8ByteSize ≤ 255))
  | .wifiDirect id => inferInstanceAs (Decidable (id.utf8ByteSize ≤ 255))
  | .bleAdvertising id => inferInstanceAs (Decidable (id.utf8ByteSize ≤ 255))

theorem cut_id_short {id : String} (short : id.utf8ByteSize ≤ 255) : cutId id = some id := by
  rw [cutId, List.take_of_length_le (by rw [strBytes_length]; exact short), from_utf8_str_bytes]

theorem received_wire_form {address : PeerAddress} (survives : address.WireForm) :
    address.received = some address := by
  cases address with
  | quic address =>
      cases address with
      | v4 ip port => rfl
      | v6 ip port flowInfo scopeId =>
          obtain ⟨rfl, rfl⟩ := survives
          rfl
  | ble id => rw [PeerAddress.received, cut_id_short survives, Option.map_some]
  | wifiDirect id => rw [PeerAddress.received, cut_id_short survives, Option.map_some]
  | bleAdvertising id => rw [PeerAddress.received, cut_id_short survives, Option.map_some]

/-- Any mixture of addresses comes back in order, up to the first 255. -/
theorem addr_exchange_round_trip (addresses : List PeerAddress)
    (survive : ∀ address ∈ addresses, address.WireForm) :
    decodeAddrExchange (encodeAddrExchange addresses) = .ok (some (addresses.take 255)) := by
  have received : ∀ address ∈ addresses.take 255, address.received = some (id address) :=
    fun address listed => received_wire_form (survive address (List.mem_of_mem_take listed))
  rw [decode_encode_received, map_m_received received, List.map_id]

def mixedAddresses : List PeerAddress :=
  [.quic (.v4 ⟨[127, 0, 0, 1], rfl⟩ 9001), .ble "€", .quic (.v6 ⟨List.replicate 16 7, rfl⟩ 9002 0 0),
    .wifiDirect "", .bleAdvertising "0011223344556677"]

theorem addr_exchange_round_trip_mixed :
    decodeAddrExchange (encodeAddrExchange mixedAddresses) = .ok (some mixedAddresses) := by
  apply addr_exchange_round_trip
  decide +kernel

/-! ## Ids that are cut off -/

def PeerAddress.IdFits : PeerAddress → Prop
  | .quic _ => True
  | .ble id => id.utf8ByteSize ≤ 255
  | .wifiDirect id => id.utf8ByteSize ≤ 255
  | .bleAdvertising id => id.utf8ByteSize ≤ 255

def CutsWhole (id : String) : Prop := id.utf8ByteSize ≤ 255 ∨ IsCharBoundary id 255

instance : DecidablePred CutsWhole := fun _ => inferInstanceAs (Decidable (_ ∨ _))

/-- The record of the address does no harm to the other ones, and none to a socket
address. -/
def PeerAddress.CutsWell : PeerAddress → Prop
  | .quic (.v4 _ _) => True
  | .quic (.v6 _ _ flowInfo scopeId) => flowInfo = 0 ∧ scopeId = 0
  | .ble id => CutsWhole id
  | .wifiDirect id => CutsWhole id
  | .bleAdvertising id => CutsWhole id

instance : DecidablePred PeerAddress.CutsWell
  | .quic (.v4 _ _) => .isTrue trivial
  | .quic (.v6 _ _ flowInfo scopeId) =>
      inferInstanceAs (Decidable (flowInfo = 0 ∧ scopeId = 0))
  | .ble id => inferInstanceAs (Decidable (CutsWhole id))
  | .wifiDirect id => inferInstanceAs (Decidable (CutsWhole id))
  | .bleAdvertising id => inferInstanceAs (Decidable (CutsWhole id))

structure KeepsFitting (addresses received : List PeerAddress) : Prop where
  length : received.length = addresses.length
  unchanged : ∀ (index : Nat) (address : PeerAddress), addresses[index]? = some address →
    address.IdFits → received[index]? = some address

theorem cut_id_isSome_iff (id : String) : (cutId id).isSome ↔ CutsWhole id := by
  by_cases short : id.utf8ByteSize ≤ 255
  · simp [cut_id_short short, CutsWhole, short]
  · rw [cutId, from_utf8_take_isSome_iff (Nat.le_of_not_le short), CutsWhole, or_iff_right short]

theorem cuts_whole_read {id : String} {wrap : String → PeerAddress} :
    CutsWhole id ↔ ((cutId id).map wrap).isSome ∧
      (id.utf8ByteSize ≤ 255 → (cutId id).map wrap = some (wrap id)) := by
  rw [Option.isSome_map, cut_id_isSome_iff, iff_self_and]
  intro _ short
  rw [cut_id_short short, Option.map_some]

theorem cuts_well_iff (address : PeerAddress) :
    address.CutsWell ↔
      address.received.isSome ∧ (address.IdFits → address.received = some address) := by
  cases address with
  | quic address =>
      cases address with
      | v4 ip port => simp [PeerAddress.CutsWell, PeerAddress.received, SocketAddr.onWire]
      | v6 ip port flowInfo scopeId =>
          simp [PeerAddress.CutsWell, PeerAddress.received, PeerAddress.IdFits, SocketAddr.onWire,
            eq_comm]
  | ble id => exact cuts_whole_read
  | wifiDirect id => exact cuts_whole_read
  | bleAdvertising id => exact cuts_whole_read

theorem read_at {addresses received : List PeerAddress} {index : Nat} {address : PeerAddress}
    (read : List.Forall₂ (fun address decoded => address.received = some decoded) addresses
      received)
    (found : addresses[index]? = some address) : address.received = received[index]? := by
  induction read generalizing index with
  | nil => simp at found
  | cons first later ih =>
      cases index with
      | zero =>
          rw [List.getElem?_cons_zero] at found ⊢
          cases found
          exact first
      | succ index =>
          rw [List.getElem?_cons_succ] at found ⊢
          exact ih found

/-- With at most 255 addresses, the exchange keeps every address whose id fits if and only
if every longer id has a character boundary after 255 bytes and every IPv6 address is
without flow info and scope id. -/
theorem exchange_keeps_fitting_iff (addresses : List PeerAddress)
    (few : addresses.length ≤ 255) :
    (∃ received, decodeAddrExchange (encodeAddrExchange addresses) = .ok (some received) ∧
      KeepsFitting addresses received) ↔
      ∀ address ∈ addresses, address.CutsWell := by
  have decoded : ∀ received,
      decodeAddrExchange (encodeAddrExchange addresses) = .ok (some received) ↔
        List.Forall₂ (fun address decoded => address.received = some decoded) addresses
          received := by
    intro received
    rw [decode_encode_received, List.take_of_length_le few, Except.ok.injEq, map_m_received_iff]
  simp only [decoded]
  constructor
  · intro given address listed
    obtain ⟨received, read, kept⟩ := given
    obtain ⟨index, found⟩ := List.mem_iff_getElem?.mp listed
    have here := read_at read found
    rw [cuts_well_iff]
    constructor
    · have inside : index < received.length := by
        rw [kept.length]
        exact (List.getElem?_eq_some_iff.mp found).1
      rw [here, List.getElem?_eq_getElem inside, Option.isSome_some]
    · intro fits
      rw [here, kept.unchanged index address found fits]
  · intro well
    have image : ∀ address ∈ addresses,
        address.received = some (address.received.getD address) := by
      intro address listed
      obtain ⟨some_read, -⟩ := (cuts_well_iff address).mp (well address listed)
      obtain ⟨decoded, same⟩ := Option.isSome_iff_exists.mp some_read
      rw [same, Option.getD_some]
    have read := map_m_received_iff.mp (map_m_received image)
    apply Exists.intro _
    apply And.intro read
    constructor
    · rw [List.length_map]
    · intro index address found fits
      rw [← read_at read found]
      exact ((cuts_well_iff address).mp (well address (List.mem_of_getElem? found))).2 fits

/-- A cut between characters: the long id is shortened, the other address is kept. -/
theorem exchange_keeps_fitting_ascii :
    ∃ received, decodeAddrExchange (encodeAddrExchange
        [.ble (String.ofList (List.replicate 300 'a')), .wifiDirect "peer"]) =
          .ok (some received) ∧
      KeepsFitting [.ble (String.ofList (List.replicate 300 'a')), .wifiDirect "peer"]
        received := by
  apply (exchange_keeps_fitting_iff _ (by decide)).mpr
  decide +kernel

/-- The last character of this id starts at byte 254 and ends at byte 257. -/
def splitId : String := String.ofList (List.replicate 254 'a' ++ ['€'])

/-- One id with a character across the cut costs the other address as well. -/
theorem split_character_costs_all :
    decodeAddrExchange (encodeAddrExchange [.quic (.v4 ⟨[127, 0, 0, 1], rfl⟩ 9001), .ble splitId]) =
        .ok none ∧
      ¬ ∃ received, decodeAddrExchange (encodeAddrExchange
          [.quic (.v4 ⟨[127, 0, 0, 1], rfl⟩ 9001), .ble splitId]) = .ok (some received) ∧
        KeepsFitting [.quic (.v4 ⟨[127, 0, 0, 1], rfl⟩ 9001), .ble splitId] received := by
  have broken : cutId splitId = none := by
    rw [← Option.not_isSome_iff_eq_none, cut_id_isSome_iff]
    decide +kernel
  have nothing : decodeAddrExchange
      (encodeAddrExchange [.quic (.v4 ⟨[127, 0, 0, 1], rfl⟩ 9001), .ble splitId]) = .ok none := by
    rw [decode_encode_received]
    simp [PeerAddress.received, broken]
  apply And.intro nothing
  rw [nothing]
  simp

end Pathweave
