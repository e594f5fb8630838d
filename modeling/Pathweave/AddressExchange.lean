import Pathweave.PeerAddresses

/-!
# Address exchange frames

The control frame both sides send after the handshake: an eight-byte control id,
a count, and one record for each address. Decoding walks the frame with an index
and gives up on the first record it cannot read.
-/

namespace Pathweave

open ByteStrings

set_option autoImplicit false

def addrExchangeCtrl : Bytes := [0, 0, 0, 0, 0, 0, 0, 1]

def encodeStringId (tag : UInt8) (id : String) : Bytes :=
  let bytes := id.toByteArray.data.toList
  let size := min bytes.length 255
  tag :: UInt8.ofNat size :: bytes.take size

def encodeAddress : PeerAddress → Bytes
  | .quic (.v4 ip port) => 0x00 :: (ip.val ++ encodeBE 2 port.toNat)
  | .quic (.v6 ip port _ _) => 0x01 :: (ip.val ++ encodeBE 2 port.toNat)
  | .ble id => encodeStringId 0x02 id
  | .wifiDirect id => encodeStringId 0x03 id
  | .bleAdvertising id => encodeStringId 0x04 id

def encodeAddrExchange (addresses : List PeerAddress) : Bytes :=
  addrExchangeCtrl ++ UInt8.ofNat (min addresses.length 255) ::
    (addresses.take 255).flatMap encodeAddress

/-- A record that was read and the index after it; `none` is the source's early
`return None`, an error of `Checked` would be a panic. -/
abbrev DecodedAddress := Checked (Option (PeerAddress × Nat))

def decodeStringId (bytes : Bytes) (pos : Nat) (wrap : String → PeerAddress) : DecodedAddress :=
  if bytes.length ≤ pos then .ok none
  else do
    let size := (← byteAt bytes pos).toNat
    if bytes.length < pos + 1 + size then .ok none
    else do
      let text ← slice bytes (pos + 1) (pos + 1 + size)
      match String.fromUTF8? text.toByteArray with
      | some id => .ok (some (wrap id, pos + 1 + size))
      | none => .ok none

def decodeSocket (bytes : Bytes) (pos ipSize : Nat)
    (wrap : Octets ipSize → UInt16 → SocketAddr) : DecodedAddress :=
  if bytes.length < pos + ipSize + 2 then .ok none
  else do
    let ip ← arrayAt bytes pos ipSize
    let port ← slice bytes (pos + ipSize) (pos + ipSize + 2)
    .ok (some (.quic (wrap ip (UInt16.ofNat (decodeBE port))), pos + ipSize + 2))

def decodeAddress (bytes : Bytes) (pos : Nat) : DecodedAddress :=
  if bytes.length ≤ pos then .ok none
  else do
    let tag ← byteAt bytes pos
    if tag = 0x00 then decodeSocket bytes (pos + 1) 4 .v4
    else if tag = 0x01 then
      decodeSocket bytes (pos + 1) 16 fun ip port => .v6 ip port 0 0
    else if tag = 0x02 then decodeStringId bytes (pos + 1) .ble
    else if tag = 0x03 then decodeStringId bytes (pos + 1) .wifiDirect
    else if tag = 0x04 then decodeStringId bytes (pos + 1) .bleAdvertising
    else .ok none

def decodeAddresses (bytes : Bytes) : Nat → Nat → List PeerAddress →
    Checked (Option (List PeerAddress))
  | 0, _, addresses => .ok (some addresses)
  | count + 1, pos, addresses => do
      match ← decodeAddress bytes pos with
      | none => .ok none
      | some (address, next) => decodeAddresses bytes count next (addresses ++ [address])

def decodeAddrExchange (bytes : Bytes) : Checked (Option (List PeerAddress)) :=
  if bytes.length < 9 then .ok none
  else do
    let control ← slice bytes 0 8
    if control ≠ addrExchangeCtrl then .ok none
    else do
      let count ← byteAt bytes 8
      decodeAddresses bytes count.toNat 9 []

/-- The test by which the responder tells a control frame from an application
frame: at least eight bytes, the first of them zero. -/
def looksLikeControl (bytes : Bytes) : Bool :=
  decide (8 ≤ bytes.length) && bytes.head? == some 0x00

theorem encode_addr_exchange_looks_like_control (addresses : List PeerAddress) :
    looksLikeControl (encodeAddrExchange addresses) = true := by
  simp [looksLikeControl, encodeAddrExchange, addrExchangeCtrl]

def mergeExchanged (peers : PeerTable) (peer : PeerId) :
    Option (List PeerAddress) → PeerTable
  | some addresses => upsertPeerAddresses peers peer addresses
  | none => peers

/-! ## Decoding never panics -/

theorem decode_string_id_total (bytes : Bytes) (pos : Nat) (wrap : String → PeerAddress) :
    ∃ decoded, decodeStringId bytes pos wrap = .ok decoded := by
  unfold decodeStringId
  split_ifs with short
  · exact ⟨_, rfl⟩
  · rw [byteAt_of_lt (by omega), checked_bind_ok]
    dsimp only
    split_ifs with truncated
    · exact ⟨_, rfl⟩
    · rw [slice_of_le (by omega) (by omega), checked_bind_ok]
      split <;> exact ⟨_, rfl⟩

theorem decode_socket_total (bytes : Bytes) (pos ipSize : Nat)
    (wrap : Octets ipSize → UInt16 → SocketAddr) :
    ∃ decoded, decodeSocket bytes pos ipSize wrap = .ok decoded := by
  unfold decodeSocket
  split_ifs with short
  · exact ⟨_, rfl⟩
  · rw [arrayAt_of_le (by omega), checked_bind_ok, slice_of_le (by omega) (by omega),
      checked_bind_ok]
    exact ⟨_, rfl⟩

theorem decode_address_total (bytes : Bytes) (pos : Nat) :
    ∃ decoded, decodeAddress bytes pos = .ok decoded := by
  unfold decodeAddress
  split_ifs with short
  · exact ⟨_, rfl⟩
  · rw [byteAt_of_lt (by omega), checked_bind_ok]
    split_ifs
    · exact decode_socket_total bytes _ _ _
    · exact decode_socket_total bytes _ _ _
    · exact decode_string_id_total bytes _ _
    · exact decode_string_id_total bytes _ _
    · exact decode_string_id_total bytes _ _
    · exact ⟨_, rfl⟩

theorem decode_addresses_total (bytes : Bytes) (count pos : Nat) (addresses : List PeerAddress) :
    ∃ decoded, decodeAddresses bytes count pos addresses = .ok decoded := by
  induction count generalizing pos addresses with
  | zero => exact ⟨_, rfl⟩
  | succ count ih =>
      rcases decode_address_total bytes pos with ⟨record, read⟩
      rw [decodeAddresses, read, checked_bind_ok]
      rcases record with _ | ⟨address, next⟩
      · exact ⟨_, rfl⟩
      · exact ih next _

theorem decode_addr_exchange_total (bytes : Bytes) :
    ∃ decoded, decodeAddrExchange bytes = .ok decoded := by
  unfold decodeAddrExchange
  split_ifs with short
  · exact ⟨_, rfl⟩
  · rw [slice_of_le (by omega) (by omega), checked_bind_ok]
    split_ifs with foreign
    · exact ⟨_, rfl⟩
    · rw [byteAt_of_lt (by omega), checked_bind_ok]
      exact decode_addresses_total bytes _ _ _

end Pathweave
