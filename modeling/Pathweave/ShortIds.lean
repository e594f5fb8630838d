import Pathweave.AddressRecords
import Pathweave.BroadcastTransport

/-!
# Short ids in hexadecimal

Three parsers read a short id from sixteen hexadecimal digits. They compare a length in
bytes and then slice the string two bytes at a time, from the left, until a pair is not
a number. A slice that cuts through a character panics, and the strings come from other
nodes: an advertising address through the address exchange, a device name over the air.
-/

namespace Pathweave

open ByteStrings StringBytes

set_option autoImplicit false

/-- `char::to_digit(16)` of a byte. -/
def hexDigit (byte : UInt8) : Option Nat :=
  if 0x30 ≤ byte ∧ byte ≤ 0x39 then some (byte.toNat - 0x30)
  else if 0x41 ≤ byte ∧ byte ≤ 0x46 then some (byte.toNat - 0x41 + 10)
  else if 0x61 ≤ byte ∧ byte ≤ 0x66 then some (byte.toNat - 0x61 + 10)
  else none

def hexValue (digits : Bytes) : Option UInt8 :=
  (digits.foldlM (fun value byte => do
    let digit ← hexDigit byte
    if value * 16 + digit < 256 then some (value * 16 + digit) else none) 0).map UInt8.ofNat

/-- `u8::from_str_radix(src, 16)`. A leading plus sign is accepted, a sign alone is not. -/
def fromStrRadix : Bytes → Option UInt8
  | [] => none
  | [first] => if first = 0x2b ∨ first = 0x2d then none else hexValue [first]
  | first :: rest => if first = 0x2b then hexValue rest else hexValue (first :: rest)

/-- The pairs from an index on. The first one that is not a number ends the parse. -/
def hexPairs (hex : String) (index : Nat) :
    (count : Nat) → Sliced (Option (Octets count))
  | 0 => .ok (some ⟨[], rfl⟩)
  | count + 1 => do
      match fromStrRadix (← strSlice hex (index * 2) (index * 2 + 2)) with
      | none => .ok none
      | some byte =>
          let rest ← hexPairs hex (index + 1) count
          .ok (rest.map fun octets => ⟨byte :: octets.val, by simp [octets.property]⟩)

/-- The length is counted in bytes. -/
def parseHexId (hex : String) : Sliced (Option ShortId) :=
  if hex.utf8ByteSize ≠ 16 then .ok none else hexPairs hex 0 8

def hexToShortId (hex : String) : Sliced (Option ShortId) := parseHexId hex

def p2pServiceName : String := "pathweave-p2p"

/-- `str::strip_prefix`. -/
def stripStart (start text : String) : Option String :=
  if start.toList <+: text.toList then
    some (String.ofList (text.toList.drop start.toList.length))
  else none

def parseServiceName (name : String) : Sliced (Option ShortId) :=
  match stripStart (p2pServiceName ++ ":") name with
  | none => .ok none
  | some hex => parseHexId hex

/-- On Linux. -/
def parseShortIdFromServiceName (name : String) : Sliced (Option ShortId) :=
  parseServiceName name

/-- On Windows. -/
def parseShortIdFromName (name : String) : Sliced (Option ShortId) :=
  parseServiceName name

/-- `connect` up to the insertion of the new connection: the two ends of it. -/
def bleAdvertisingConnect (localShortId : Option ShortId) (peer : PeerAnnouncement) :
    Sliced (Except Error (ShortId × ShortId)) :=
  match peer.address with
  | .bleAdvertising hexId => do
      match ← hexToShortId hexId with
      | none => .ok (.error (.transport "malformed BLE advertising short_id"))
      | some peerShortId =>
          match localShortId with
          | none => .ok (.error (.transport "transport not started"))
          | some localShortId => .ok (.ok (localShortId, peerShortId))
  | _ => .ok (.error (.transport "expected BLE advertising address"))

/-! ## When a parse returns -/

def pairAt (hex : String) (index : Nat) : Bytes := ((strBytes hex).drop (index * 2)).take 2

def PairsWhole (hex : String) : Prop :=
  ∀ index < 8, (∀ earlier < index, (fromStrRadix (pairAt hex earlier)).isSome) →
    IsCharBoundary hex (index * 2 + 2)

instance : DecidablePred PairsWhole := fun _ => inferInstanceAs (Decidable (∀ _ < _, _))

/-- Other lengths are rejected before the first slice. -/
def SlicesWell (hex : String) : Prop := hex.utf8ByteSize = 16 → PairsWhole hex

instance : DecidablePred SlicesWell := fun _ => inferInstanceAs (Decidable (_ → _))

theorem slice_pair {hex : String} {index : Nat} (start : IsCharBoundary hex (index * 2)) :
    strSlice hex (index * 2) (index * 2 + 2) =
      if IsCharBoundary hex (index * 2 + 2) then .ok (pairAt hex index)
      else .error .notCharBoundary := by
  rw [strSlice, if_neg (by omega), Nat.add_sub_cancel_left]
  simp only [start, true_and]
  rfl

theorem hex_pairs_return_iff {hex : String} {index count : Nat}
    (start : IsCharBoundary hex (index * 2)) :
    Returns (hexPairs hex index count) ↔
      ∀ offset < count,
        (∀ earlier < offset, (fromStrRadix (pairAt hex (index + earlier))).isSome) →
          IsCharBoundary hex ((index + offset) * 2 + 2) := by
  induction count generalizing index with
  | zero => simp [Returns, hexPairs]
  | succ count ih =>
      rw [hexPairs, slice_pair start, Nat.forall_lt_succ_left']
      by_cases whole : IsCharBoundary hex (index * 2 + 2)
      · rw [if_pos whole, sliced_bind_ok]
        cases parsed : fromStrRadix (pairAt hex index) with
        | none =>
            -- The parse ends here: the later pairs are not reached.
            refine iff_of_true (returns_ok none) ⟨fun _ => whole, ?_⟩
            intro offset _ reached
            have here := reached 0 (Nat.succ_pos offset)
            rw [Nat.add_zero, parsed] at here
            cases here
        | some byte =>
            have next : IsCharBoundary hex ((index + 1) * 2) := by
              rw [Nat.succ_mul]
              exact whole
            simp only [returns_bind_iff fun _ => returns_ok _, ih next]
            refine Iff.trans ?_ (and_iff_right fun _ => whole).symm
            apply forall_congr'
            intro offset
            apply forall_congr'
            intro _
            rw [Nat.forall_lt_succ_left']
            simp only [Nat.add_zero, parsed, Option.isSome_some, true_and, Nat.add_assoc,
              Nat.add_comm 1]
      · rw [if_neg whole, sliced_bind_error]
        simp [whole]

theorem char_boundary_zero (text : String) : IsCharBoundary text 0 :=
  String.Pos.Raw.isValid_zero

theorem parse_hex_id_returns_iff (hex : String) : Returns (parseHexId hex) ↔ SlicesWell hex := by
  unfold parseHexId SlicesWell
  by_cases size : hex.utf8ByteSize = 16
  · rw [if_neg (not_not_intro size), hex_pairs_return_iff (char_boundary_zero hex)]
    simp only [Nat.zero_add, size, true_imp_iff, PairsWhole]
  · rw [if_pos size]
    simp [size]

theorem strip_start_eq_some_iff {start text rest : String} :
    stripStart start text = some rest ↔ text = start ++ rest := by
  rw [stripStart, ← String.toList_inj, String.toList_append]
  constructor
  · intro stripped
    split at stripped
    · next starts =>
        cases stripped
        rw [String.toList_ofList]
        exact List.prefix_iff_eq_append.mp starts |>.symm
    · cases stripped
  · intro same
    rw [if_pos ⟨rest.toList, same.symm⟩, same, List.drop_left, String.ofList_toList]

theorem parse_service_name_returns_iff (name : String) :
    Returns (parseServiceName name) ↔
      ∀ hex, name = p2pServiceName ++ ":" ++ hex → SlicesWell hex := by
  simp only [← strip_start_eq_some_iff, parseServiceName]
  cases stripStart (p2pServiceName ++ ":") name with
  | none => simp
  | some hex => simp [parse_hex_id_returns_iff]

theorem ble_advertising_connect_returns_iff (localShortId : Option ShortId)
    (peer : PeerAnnouncement) :
    Returns (bleAdvertisingConnect localShortId peer) ↔
      ∀ hexId, peer.address = .bleAdvertising hexId → SlicesWell hexId := by
  unfold bleAdvertisingConnect
  cases peer.address with
  | bleAdvertising hexId =>
      rw [returns_bind_iff]
      · simp [hexToShortId, parse_hex_id_returns_iff]
      · intro parsed
        cases parsed with
        | none => exact returns_ok _
        | some peerShortId => cases localShortId <;> exact returns_ok _
  | _ => simp

/-- The exact inputs on which the parsers of short ids, and the dial of an advertising
address, return: those of sixteen bytes must have a character end after each pair that is
reached. -/
theorem short_id_parsers_return_iff (hex name : String) (localShortId : Option ShortId)
    (peer : PeerAnnouncement) :
    (Returns (hexToShortId hex) ↔ SlicesWell hex) ∧
    (Returns (bleAdvertisingConnect localShortId peer) ↔
      ∀ hexId, peer.address = .bleAdvertising hexId → SlicesWell hexId) ∧
    (Returns (parseShortIdFromServiceName name) ↔
      ∀ hex, name = p2pServiceName ++ ":" ++ hex → SlicesWell hex) ∧
    (Returns (parseShortIdFromName name) ↔
      ∀ hex, name = p2pServiceName ++ ":" ++ hex → SlicesWell hex) :=
  ⟨parse_hex_id_returns_iff hex, ble_advertising_connect_returns_iff localShortId peer,
    parse_service_name_returns_iff name, parse_service_name_returns_iff name⟩

/-- Sixteen bytes, the first three of them one character. -/
def splitHex : String := "€0000000000000"

/-- One record of an address exchange is enough: the address it leaves in the peer table
makes the next dial panic. A device name of that shape does the same to discovery. -/
theorem remote_id_panics_send :
    decodeAddrExchange (encodeAddrExchange [.bleAdvertising splitHex]) =
        .ok (some [.bleAdvertising splitHex]) ∧
      (∀ localShortId, bleAdvertisingConnect localShortId ⟨.bleAdvertising splitHex, none⟩ =
        .error .notCharBoundary) ∧
      parseShortIdFromServiceName (p2pServiceName ++ ":" ++ splitHex) =
        .error .notCharBoundary ∧
      parseShortIdFromName (p2pServiceName ++ ":" ++ splitHex) = .error .notCharBoundary := by
  have first : parseHexId splitHex = .error .notCharBoundary := by
    have size : ¬ splitHex.utf8ByteSize ≠ 16 := by decide +kernel
    have broken : ¬ IsCharBoundary splitHex (0 * 2 + 2) := by decide +kernel
    rw [parseHexId, if_neg size, hexPairs, slice_pair (char_boundary_zero splitHex),
      if_neg broken, sliced_bind_error]
  have named : parseServiceName (p2pServiceName ++ ":" ++ splitHex) =
      .error .notCharBoundary := by
    rw [parseServiceName, strip_start_eq_some_iff.mpr rfl]
    exact first
  refine ⟨?_, ?_, named, named⟩
  · rw [decode_encode_received]
    have short : splitHex.utf8ByteSize ≤ 255 := by decide +kernel
    simp [PeerAddress.received, cut_id_short short]
  · intro localShortId
    simp only [bleAdvertisingConnect, hexToShortId, first, sliced_bind_error]

end Pathweave
