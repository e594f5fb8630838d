import Pathweave.AddressRecords

/-!
# The grammar of an address exchange

The decoder accepts exactly the control id, a count byte and that many records, and it
does not look at what follows them. A record has one reading and every reading has one
record, so encoding what was decoded gives back the bytes that were read.
-/

namespace Pathweave

open ByteStrings StringBytes

set_option autoImplicit false

inductive AddressRecord : Bytes → PeerAddress → Prop where
  | quicV4 (ip : Octets 4) (port : Octets 2) :
      AddressRecord (0x00 :: (ip.val ++ port.val))
        (.quic (.v4 ip (UInt16.ofNat (decodeBE port.val))))
  | quicV6 (ip : Octets 16) (port : Octets 2) :
      AddressRecord (0x01 :: (ip.val ++ port.val))
        (.quic (.v6 ip (UInt16.ofNat (decodeBE port.val)) 0 0))
  | ble (size : UInt8) (id : String) (exact : (strBytes id).length = size.toNat) :
      AddressRecord (0x02 :: size :: strBytes id) (.ble id)
  | wifiDirect (size : UInt8) (id : String) (exact : (strBytes id).length = size.toNat) :
      AddressRecord (0x03 :: size :: strBytes id) (.wifiDirect id)
  | bleAdvertising (size : UInt8) (id : String) (exact : (strBytes id).length = size.toNat) :
      AddressRecord (0x04 :: size :: strBytes id) (.bleAdvertising id)

/-- The control id, a count byte and that many records, followed by anything. -/
def AddrExchangeFrame (bytes : Bytes) (addresses : List PeerAddress) : Prop :=
  ∃ (count : UInt8) (records : List Bytes) (rest : Bytes),
    bytes = addrExchangeCtrl ++ count :: (records.flatten ++ rest) ∧
      records.length = count.toNat ∧ List.Forall₂ AddressRecord records addresses

/-! ## A record is the encoding of its address -/

theorem port_bytes (port : Octets 2) :
    encodeBE 2 (UInt16.ofNat (decodeBE port.val)).toNat = port.val := by
  have bounded : decodeBE port.val < 2 ^ 16 := by
    have below := decodeBE_lt port.val
    rw [port.property] at below
    exact below
  have whole := encodeBE_decodeBE port.val
  rw [port.property] at whole
  rw [UInt16.toNat_ofNat', Nat.mod_eq_of_lt bounded, whole]

theorem encode_short_id (tag : UInt8) {size : UInt8} {id : String}
    (exact : (strBytes id).length = size.toNat) :
    encodeStringId tag id = tag :: size :: strBytes id := by
  have short := size.toNat_lt
  have all : min (strBytes id).length 255 = (strBytes id).length := by omega
  have shape : encodeStringId tag id = tag :: UInt8.ofNat (min (strBytes id).length 255) ::
      (strBytes id).take (min (strBytes id).length 255) := rfl
  rw [shape, all, List.take_length, exact, UInt8.ofNat_toNat]

theorem record_encoded {record : Bytes} {address : PeerAddress}
    (formed : AddressRecord record address) : record = encodeAddress address := by
  cases formed with
  | quicV4 ip port => rw [encodeAddress, port_bytes]
  | quicV6 ip port => rw [encodeAddress, port_bytes]
  | ble size id exact => rw [encodeAddress, encode_short_id _ exact]
  | wifiDirect size id exact => rw [encodeAddress, encode_short_id _ exact]
  | bleAdvertising size id exact => rw [encodeAddress, encode_short_id _ exact]

theorem record_survives {record : Bytes} {address : PeerAddress}
    (formed : AddressRecord record address) : address.WireForm := by
  have short : ∀ (size : UInt8) (id : String), (strBytes id).length = size.toNat →
      id.utf8ByteSize ≤ 255 := by
    intro size id exact
    rw [strBytes_length] at exact
    have bounded := size.toNat_lt
    omega
  cases formed with
  | quicV4 ip port => trivial
  | quicV6 ip port => exact ⟨rfl, rfl⟩
  | ble size id exact => exact short size id exact
  | wifiDirect size id exact => exact short size id exact
  | bleAdvertising size id exact => exact short size id exact

theorem records_encoded {records : List Bytes} {addresses : List PeerAddress}
    (formed : List.Forall₂ AddressRecord records addresses) :
    records.flatten = addresses.flatMap encodeAddress ∧ ∀ address ∈ addresses, address.WireForm := by
  induction formed with
  | nil => simp
  | cons first later ih =>
      rw [List.flatten_cons, List.flatMap_cons, ih.1, record_encoded first]
      exact ⟨rfl, List.forall_mem_cons.mpr ⟨record_survives first, ih.2⟩⟩

/-! ## What is read is a record -/

section Inversion

variable {before tail : Bytes} {tag : UInt8} {address : PeerAddress} {next : Nat}

theorem decode_socket_read {size : Nat} {wrap : Octets size → UInt16 → SocketAddr}
    (read : decodeSocket (before ++ tag :: tail) (before.length + 1) size wrap =
      .ok (some (address, next))) :
    ∃ (ip : Octets size) (port : Octets 2) (rest : Bytes), tail = ip.val ++ (port.val ++ rest) ∧
      address = .quic (wrap ip (UInt16.ofNat (decodeBE port.val))) ∧
        next = before.length + 1 + size + 2 := by
  by_cases short : tail.length < size + 2
  · rw [decodeSocket, if_pos] at read
    · cases read
    · simp only [List.length_append, List.length_cons]
      omega
  · obtain ⟨ip, others, rfl⟩ := exists_octets_append (show size ≤ tail.length by omega)
    rw [List.length_append, ip.property] at short
    obtain ⟨port, rest, rfl⟩ := exists_octets_append (show 2 ≤ others.length by omega)
    rw [← port_bytes port, decode_socket_record, Except.ok.injEq, Option.some.injEq] at read
    cases read
    exact ⟨ip, port, rest, rfl, rfl, rfl⟩

theorem decode_string_read {wrap : String → PeerAddress}
    (read : decodeStringId (before ++ tag :: tail) (before.length + 1) wrap =
      .ok (some (address, next))) :
    ∃ (size : UInt8) (id : String) (rest : Bytes), tail = size :: (strBytes id ++ rest) ∧
      (strBytes id).length = size.toNat ∧ address = wrap id ∧
        next = before.length + 2 + (strBytes id).length := by
  cases tail with
  | nil =>
      rw [decodeStringId, if_pos (by simp)] at read
      cases read
  | cons size others =>
      by_cases short : others.length < size.toNat
      · have start : before.length + 1 = (before ++ [tag]).length := by simp
        rw [List.append_cons, start, decodeStringId, if_neg (by simp), byteAt_append rfl,
          checked_bind_ok] at read
        dsimp only at read
        rw [if_pos] at read
        · cases read
        · simp only [List.length_append, List.length_cons, List.length_nil]
          omega
      · obtain ⟨text, rest, rfl⟩ := exists_octets_append (show size.toNat ≤ others.length by omega)
        rw [decode_string_record before tag rest wrap text.property, Except.ok.injEq,
          Option.map_eq_some_iff] at read
        obtain ⟨id, valid, same⟩ := read
        have bytes := from_utf8_eq_some_iff.mp valid
        cases same
        refine ⟨size, id, rest, ?_, ?_, rfl, ?_⟩
        · rw [bytes]
        · rw [bytes, text.property]
        · rw [bytes]

theorem socket_record_read {size : Nat} {wrap : Octets size → UInt16 → SocketAddr}
    (formed : ∀ (ip : Octets size) (port : Octets 2), AddressRecord (tag :: (ip.val ++ port.val))
      (.quic (wrap ip (UInt16.ofNat (decodeBE port.val)))))
    (read : decodeSocket (before ++ tag :: tail) (before.length + 1) size wrap =
      .ok (some (address, next))) :
    ∃ record rest, tag :: tail = record ++ rest ∧ AddressRecord record address ∧
      next = before.length + record.length := by
  obtain ⟨ip, port, rest, rfl, rfl, rfl⟩ := decode_socket_read read
  refine ⟨_, rest, ?_, formed ip port, ?_⟩
  · simp
  · simp only [List.length_cons, List.length_append, ip.property, port.property]
    omega

theorem string_record_read {wrap : String → PeerAddress}
    (formed : ∀ (size : UInt8) (id : String), (strBytes id).length = size.toNat →
      AddressRecord (tag :: size :: strBytes id) (wrap id))
    (read : decodeStringId (before ++ tag :: tail) (before.length + 1) wrap =
      .ok (some (address, next))) :
    ∃ record rest, tag :: tail = record ++ rest ∧ AddressRecord record address ∧
      next = before.length + record.length := by
  obtain ⟨size, id, rest, rfl, exact, rfl, rfl⟩ := decode_string_read read
  refine ⟨_, rest, ?_, formed size id exact, ?_⟩
  · simp
  · simp only [List.length_cons]
    omega

theorem decode_address_read
    (read : decodeAddress (before ++ tail) before.length = .ok (some (address, next))) :
    ∃ record rest, tail = record ++ rest ∧ AddressRecord record address ∧
      next = before.length + record.length := by
  cases tail with
  | nil =>
      rw [decodeAddress, if_pos (by simp)] at read
      cases read
  | cons tag tail =>
      rw [decode_address_tag] at read
      split_ifs at read with v4 v6 ble wifiDirect bleAdvertising
      · subst v4
        exact socket_record_read AddressRecord.quicV4 read
      · subst v6
        exact socket_record_read AddressRecord.quicV6 read
      · subst ble
        exact string_record_read AddressRecord.ble read
      · subst wifiDirect
        exact string_record_read AddressRecord.wifiDirect read
      · subst bleAdvertising
        exact string_record_read AddressRecord.bleAdvertising read
      · cases read

end Inversion

theorem decode_records_read {count : Nat} {before tail : Bytes} {known result : List PeerAddress}
    (read : decodeAddresses (before ++ tail) count before.length known = .ok (some result)) :
    ∃ records addresses rest, tail = List.flatten records ++ rest ∧ records.length = count ∧
      List.Forall₂ AddressRecord records addresses ∧ result = known ++ addresses := by
  induction count generalizing before tail known with
  | zero =>
      cases read
      exact ⟨[], [], tail, rfl, rfl, .nil, (List.append_nil _).symm⟩
  | succ count ih =>
      obtain ⟨decoded, first⟩ := decode_address_total (before ++ tail) before.length
      rw [decodeAddresses, first, checked_bind_ok] at read
      cases decoded with
      | none => cases read
      | some entry =>
          obtain ⟨address, next⟩ := entry
          obtain ⟨record, others, rfl, formed, rfl⟩ := decode_address_read first
          dsimp only at read
          rw [← List.append_assoc, ← List.length_append] at read
          obtain ⟨records, addresses, rest, rfl, counted, later, rfl⟩ := ih read
          refine ⟨record :: records, address :: addresses, rest, ?_, ?_, .cons formed later, ?_⟩
          · rw [List.flatten_cons, List.append_assoc]
          · rw [List.length_cons, counted]
          · rw [List.append_assoc, List.singleton_append]

/-! ## The decoder accepts exactly the grammar -/

theorem decode_of_grammar {bytes : Bytes} {addresses : List PeerAddress}
    (framed : AddrExchangeFrame bytes addresses) :
    decodeAddrExchange bytes = .ok (some addresses) := by
  obtain ⟨count, records, rest, rfl, counted, formed⟩ := framed
  obtain ⟨encoded, survive⟩ := records_encoded formed
  have received : ∀ address ∈ addresses, address.received = some (id address) :=
    fun address listed => received_wire_form (survive address listed)
  rw [encoded, decode_counted_addresses (formed.length_eq.symm.trans counted),
    map_m_received received, List.map_id]

theorem grammar_of_decoded {bytes : Bytes} {addresses : List PeerAddress}
    (decoded : decodeAddrExchange bytes = .ok (some addresses)) :
    AddrExchangeFrame bytes addresses := by
  by_cases short : bytes.length < 9
  · rw [decodeAddrExchange, if_pos short] at decoded
    cases decoded
  · obtain ⟨control, others, rfl⟩ := exists_octets_append (show 8 ≤ bytes.length by omega)
    cases others with
    | nil =>
        rw [List.append_nil, control.property] at short
        omega
    | cons count tail =>
        by_cases foreign : control.val = addrExchangeCtrl
        · rw [foreign, decode_addr_exchange_start] at decoded
          have start : addrExchangeCtrl ++ count :: tail =
              (addrExchangeCtrl ++ [count]) ++ tail := by
            simp
          rw [start] at decoded
          obtain ⟨records, read, rest, rfl, counted, formed, rfl⟩ :=
            decode_records_read decoded
          exact ⟨count, records, rest, by rw [foreign], counted, formed⟩
        · have front : slice (control.val ++ count :: tail) 0 8 = .ok control.val :=
            slice_append [] control.val _ rfl (by rw [control.property])
          rw [decodeAddrExchange, if_neg short, front, checked_bind_ok, if_pos foreign] at decoded
          cases decoded

/-- No byte string makes the decoder panic. It accepts the grammar and nothing else, returns
as many addresses as the count byte says, and their encoding is what it read. -/
theorem decode_addr_exchange_canonical (bytes : Bytes) :
    ∃ decoded, decodeAddrExchange bytes = .ok decoded ∧
      (∀ addresses, decoded = some addresses ↔ AddrExchangeFrame bytes addresses) ∧
      ∀ addresses, decoded = some addresses →
        bytes[8]?.map UInt8.toNat = some addresses.length ∧
          encodeAddrExchange addresses <+: bytes := by
  obtain ⟨decoded, total⟩ := decode_addr_exchange_total bytes
  have accepts : ∀ addresses, decoded = some addresses ↔ AddrExchangeFrame bytes addresses := by
    intro addresses
    constructor
    · intro same
      exact grammar_of_decoded (same ▸ total)
    · intro framed
      exact Except.ok.inj (total.symm.trans (decode_of_grammar framed))
  refine ⟨decoded, total, accepts, ?_⟩
  intro addresses same
  obtain ⟨count, records, rest, rfl, counted, formed⟩ := (accepts addresses).mp same
  have few : addresses.length = count.toNat := formed.length_eq.symm.trans counted
  have bounded := count.toNat_lt
  constructor
  · simp [addrExchangeCtrl, few]
  · have all : min addresses.length 255 = addresses.length := by omega
    rw [encodeAddrExchange, all, List.take_of_length_le (by omega), few, UInt8.ofNat_toNat,
      (records_encoded formed).1]
    exact ⟨rest, by simp⟩

end Pathweave
