import Pathweave.ShortIds

/-!
# Short ids as exact text

`short_id_to_hex` writes two lower case digits per byte, and the parsers read them
back. The parsers take each pair as a number, though, and a number may start with a
plus sign. So they accept texts that are no hexadecimal digits, and two addresses can
denote the same peer.
-/

namespace Pathweave

open ByteStrings StringBytes

set_option autoImplicit false

/-! ## Writing -/

def lowerDigit (value : Nat) : Char :=
  if value < 10 then Char.ofNat (0x30 + value) else Char.ofNat (0x61 + (value - 10))

/-- `format!("{:02x}", byte)`. -/
def hexChars (byte : UInt8) : List Char :=
  [lowerDigit (byte.toNat / 16), lowerDigit (byte.toNat % 16)]

def shortIdToHex (id : ShortId) : String := String.ofList (id.val.flatMap hexChars)

/-! ## Digits -/

def IsHexDigit (char : Char) : Prop :=
  '0' ≤ char ∧ char ≤ '9' ∨ 'A' ≤ char ∧ char ≤ 'F' ∨ 'a' ≤ char ∧ char ≤ 'f'

instance : DecidablePred IsHexDigit := fun _ => inferInstanceAs (Decidable (_ ∨ _))

theorem ascii_cases (property : Char → Prop) (each : ∀ code < 128, property (Char.ofNat code))
    {char : Char} (ascii : char.toNat < 128) : property char := by
  have held := each char.toNat ascii
  rwa [Char.ofNat_toNat] at held

theorem hex_digit_iff {char : Char} (ascii : char.toNat < 128) :
    (hexDigit (asciiByte char)).isSome ↔ IsHexDigit char :=
  ascii_cases (fun char => (hexDigit (asciiByte char)).isSome ↔ IsHexDigit char)
    (by decide +kernel) ascii

theorem hex_digit_written {char : Char} (ascii : char.toNat < 128) :
    ∀ digit ∈ hexDigit (asciiByte char), digit < 16 ∧ lowerDigit digit = char.toLower :=
  ascii_cases (fun char => ∀ digit ∈ hexDigit (asciiByte char),
    digit < 16 ∧ lowerDigit digit = char.toLower) (by decide +kernel) ascii

theorem lower_digit_unsigned : ∀ value < 16,
    (lowerDigit value).toNat < 128 ∧ lowerDigit value ≠ '+' ∧
      (lowerDigit value).toLower = lowerDigit value := by
  decide +kernel

theorem plus_no_digit : ¬ IsHexDigit '+' := by decide

theorem lower_digit_read : ∀ value < 16,
    hexDigit (asciiByte (lowerDigit value)) = some value ∧
      asciiByte (lowerDigit value) ≠ 0x2b := by
  decide +kernel

/-! ## Pairs -/

theorem hex_value_pair {first second : UInt8} {high low : Nat} (highSmall : high < 16)
    (lowSmall : low < 16) (firstDigit : hexDigit first = some high)
    (secondDigit : hexDigit second = some low) :
    hexValue [first, second] = some (UInt8.ofNat (high * 16 + low)) := by
  have fits : high < 256 := by omega
  have bothFit : high * 16 + low < 256 := by omega
  simp [hexValue, firstDigit, secondDigit, fits, bothFit]

theorem unsigned_pair {first second : UInt8} (unsigned : first ≠ 0x2b) :
    fromStrRadix [first, second] = hexValue [first, second] :=
  if_neg unsigned

theorem hex_value_digits {digits : Bytes} {byte : UInt8} (read : hexValue digits = some byte) :
    ∀ digit ∈ digits, (hexDigit digit).isSome := by
  obtain ⟨total, summed, _⟩ := Option.map_eq_some_iff.mp read
  clear read
  -- the claim is for any value of the digits before these
  generalize 0 = value at summed
  induction digits generalizing value with
  | nil => simp
  | cons first rest induction =>
      rw [List.foldlM_cons] at summed
      obtain ⟨next, added, later⟩ := Option.bind_eq_some_iff.mp summed
      obtain ⟨digit, found, _⟩ := Option.bind_eq_some_iff.mp added
      rw [List.forall_mem_cons]
      exact ⟨Option.isSome_of_eq_some found, induction next later⟩

theorem hex_digit_ascii {byte : UInt8} (digit : (hexDigit byte).isSome) : byte.toNat < 128 := by
  have upper : byte ≤ 0x66 := by
    unfold hexDigit at digit
    grind
  have bound := UInt8.le_iff_toNat_le.mp upper
  exact Nat.lt_of_le_of_lt bound (by decide)

theorem number_ascii {digits : Bytes} {byte : UInt8} (read : fromStrRadix digits = some byte) :
    ∀ digit ∈ digits, digit.toNat < 128 := by
  have unsigned : ∀ {digits : Bytes}, hexValue digits = some byte →
      ∀ digit ∈ digits, digit.toNat < 128 :=
    fun value digit member => hex_digit_ascii (hex_value_digits value digit member)
  unfold fromStrRadix at read
  split at read
  · cases read
  · split at read
    · cases read
    · exact unsigned read
  · split at read
    · next sign =>
        rw [List.forall_mem_cons, sign]
        exact ⟨by decide, unsigned read⟩
    · exact unsigned read

theorem hex_chars_of_digits {high low : Nat} (highSmall : high < 16) (lowSmall : low < 16) :
    hexChars (UInt8.ofNat (high * 16 + low)) = [lowerDigit high, lowerDigit low] := by
  have value : (UInt8.ofNat (high * 16 + low)).toNat = high * 16 + low := by
    rw [UInt8.toNat_ofNat']
    omega
  rw [hexChars, value]
  have quotient : (high * 16 + low) / 16 = high := by omega
  have remainder : (high * 16 + low) % 16 = low := by omega
  rw [quotient, remainder]

/-- A pair of ASCII characters that is no signed number is read if both are digits, and
then as the byte that is written as the same digits. -/
theorem ascii_pair_read {first second : Char} (firstAscii : first.toNat < 128)
    (secondAscii : second.toNat < 128) (unsigned : first ≠ '+') :
    ((fromStrRadix [asciiByte first, asciiByte second]).isSome ↔
      IsHexDigit first ∧ IsHexDigit second) ∧
    ∀ byte, fromStrRadix [asciiByte first, asciiByte second] = some byte →
      hexChars byte = [first.toLower, second.toLower] := by
  have noSign : asciiByte first ≠ 0x2b :=
    ascii_cases (fun char => char ≠ '+' → asciiByte char ≠ 0x2b) (by decide +kernel) firstAscii
      unsigned
  rw [unsigned_pair noSign, ← hex_digit_iff firstAscii, ← hex_digit_iff secondAscii]
  have digits : ∀ high low, hexDigit (asciiByte first) = some high →
      hexDigit (asciiByte second) = some low →
      hexValue [asciiByte first, asciiByte second] = some (UInt8.ofNat (high * 16 + low)) ∧
        hexChars (UInt8.ofNat (high * 16 + low)) = [first.toLower, second.toLower] := by
    intro high low firstDigit secondDigit
    obtain ⟨highSmall, firstWritten⟩ := hex_digit_written firstAscii high firstDigit
    obtain ⟨lowSmall, secondWritten⟩ := hex_digit_written secondAscii low secondDigit
    refine ⟨hex_value_pair highSmall lowSmall firstDigit secondDigit, ?_⟩
    rw [hex_chars_of_digits highSmall lowSmall, firstWritten, secondWritten]
  have found : ∀ {byte : UInt8}, hexValue [asciiByte first, asciiByte second] = some byte →
      (hexDigit (asciiByte first)).isSome ∧ (hexDigit (asciiByte second)).isSome := by
    intro byte read
    exact ⟨hex_value_digits read _ (by simp), hex_value_digits read _ (by simp)⟩
  constructor
  · constructor
    · intro readable
      obtain ⟨byte, read⟩ := Option.isSome_iff_exists.mp readable
      exact found read
    · rintro ⟨firstFound, secondFound⟩
      obtain ⟨high, firstDigit⟩ := Option.isSome_iff_exists.mp firstFound
      obtain ⟨low, secondDigit⟩ := Option.isSome_iff_exists.mp secondFound
      simp [(digits high low firstDigit secondDigit).1]
  · intro byte read
    obtain ⟨firstFound, secondFound⟩ := found read
    obtain ⟨high, firstDigit⟩ := Option.isSome_iff_exists.mp firstFound
    obtain ⟨low, secondDigit⟩ := Option.isSome_iff_exists.mp secondFound
    obtain ⟨value, written⟩ := digits high low firstDigit secondDigit
    rw [value] at read
    cases read
    exact written

theorem hex_value_digit {char : Char} (ascii : char.toNat < 128) :
    hexValue [asciiByte char] = (hexDigit (asciiByte char)).map UInt8.ofNat :=
  ascii_cases (fun char =>
    hexValue [asciiByte char] = (hexDigit (asciiByte char)).map UInt8.ofNat)
    (by decide +kernel) ascii

theorem signed_pair_digit {second : Char} (ascii : second.toNat < 128) :
    fromStrRadix [asciiByte '+', asciiByte second] =
      (hexDigit (asciiByte second)).map UInt8.ofNat := by
  have sign : asciiByte '+' = 0x2b := by decide
  rw [fromStrRadix, if_pos sign, hex_value_digit ascii]
  exact fun nothing => List.cons_ne_nil _ _ nothing

theorem pair_read_iff {first second : Char} (firstAscii : first.toNat < 128)
    (secondAscii : second.toNat < 128) :
    (fromStrRadix [asciiByte first, asciiByte second]).isSome ↔
      (IsHexDigit first ∨ first = '+') ∧ IsHexDigit second := by
  by_cases sign : first = '+'
  · rw [sign, signed_pair_digit secondAscii, Option.isSome_map, hex_digit_iff secondAscii]
    simp
  · rw [(ascii_pair_read firstAscii secondAscii sign).1]
    simp [sign]

theorem signed_pair_small {second : Char} {byte : UInt8} (ascii : second.toNat < 128)
    (read : fromStrRadix [asciiByte '+', asciiByte second] = some byte) : byte.toNat < 16 := by
  rw [signed_pair_digit ascii] at read
  obtain ⟨digit, found, rfl⟩ := Option.map_eq_some_iff.mp read
  have small := (hex_digit_written ascii digit found).1
  rw [UInt8.toNat_ofNat']
  omega

theorem written_pair_read (byte : UInt8) :
    fromStrRadix ((hexChars byte).map asciiByte) = some byte := by
  have high : byte.toNat / 16 < 16 := by
    have bound := byte.toNat_lt
    omega
  have low : byte.toNat % 16 < 16 := Nat.mod_lt _ (by decide)
  obtain ⟨firstDigit, noSign⟩ := lower_digit_read _ high
  obtain ⟨secondDigit, _⟩ := lower_digit_read _ low
  have whole : byte.toNat / 16 * 16 + byte.toNat % 16 = byte.toNat := by omega
  have value := hex_value_pair high low firstDigit secondDigit
  rw [whole, UInt8.ofNat_toNat] at value
  exact (unsigned_pair noSign).trans value

/-! ## Texts -/

def readPairs : Bytes → Option Bytes
  | [] => some []
  | [_] => none
  | first :: second :: rest => do
      let byte ← fromStrRadix [first, second]
      let bytes ← readPairs rest
      some (byte :: bytes)

theorem two_or_more {Item : Type} {items : List Item} (long : 2 ≤ items.length) :
    ∃ first second rest, items = first :: second :: rest := by
  cases items with
  | nil => simp at long
  | cons first tail =>
      cases tail with
      | nil => simp at long
      | cons second rest => exact ⟨first, second, rest, rfl⟩

theorem read_pairs_cons_iff {first second : UInt8} {rest bytes : Bytes} :
    readPairs (first :: second :: rest) = some bytes ↔
      ∃ byte later, fromStrRadix [first, second] = some byte ∧ readPairs rest = some later ∧
        bytes = byte :: later := by
  simp only [readPairs, Option.bind_eq_bind, Option.bind_eq_some_iff, Option.some.injEq,
    eq_comm (a := bytes)]
  grind

theorem read_pairs_cons_isSome {first second : UInt8} {rest : Bytes} :
    (readPairs (first :: second :: rest)).isSome ↔
      (fromStrRadix [first, second]).isSome ∧ (readPairs rest).isSome := by
  simp only [Option.isSome_iff_exists, read_pairs_cons_iff]
  constructor
  · rintro ⟨_, byte, later, pair, tail, _⟩
    exact ⟨⟨byte, pair⟩, ⟨later, tail⟩⟩
  · rintro ⟨⟨byte, pair⟩, ⟨later, tail⟩⟩
    exact ⟨_, byte, later, pair, tail, rfl⟩

theorem read_pairs_length {input bytes : Bytes} (read : readPairs input = some bytes) :
    input.length = bytes.length * 2 := by
  fun_induction readPairs input generalizing bytes with
  | case1 =>
      cases read
      rfl
  | case2 => cases read
  | case3 first second rest induction =>
      obtain ⟨byte, later, _, readRest, rfl⟩ := read_pairs_cons_iff.mp read
      have size := induction readRest
      simp only [List.length_cons]
      omega

/-- Where every position is a boundary, the parser reads the pairs of the bytes. -/
theorem hex_pairs_read {hex : String} (whole : ∀ index ≤ hex.utf8ByteSize, IsCharBoundary hex index)
    {index count : Nat} (size : hex.utf8ByteSize = (index + count) * 2) :
    ∃ parsed, hexPairs hex index count = .ok parsed ∧
      parsed.map Subtype.val = readPairs ((strBytes hex).drop (index * 2)) := by
  induction count generalizing index with
  | zero =>
      have past : (strBytes hex).drop (index * 2) = [] := by
        rw [List.drop_eq_nil_iff, strBytes_length, size]
        omega
      exact ⟨_, rfl, by rw [past]; rfl⟩
  | succ count induction =>
      have start : IsCharBoundary hex (index * 2) := whole _ (by omega)
      have stop : IsCharBoundary hex (index * 2 + 2) := whole _ (by omega)
      have long : 2 ≤ ((strBytes hex).drop (index * 2)).length := by
        rw [List.length_drop, strBytes_length, size]
        omega
      obtain ⟨first, second, rest, split⟩ := two_or_more long
      have pair : pairAt hex index = [first, second] := by rw [pairAt, split]; rfl
      have later : (strBytes hex).drop ((index + 1) * 2) = rest := by
        rw [Nat.succ_mul, ← List.drop_drop, split]
        rfl
      rw [hexPairs, slice_pair start, if_pos stop, sliced_bind_ok, pair, split]
      cases read : fromStrRadix [first, second] with
      | none => exact ⟨none, rfl, by simp [readPairs, read]⟩
      | some byte =>
          have sizeLater : hex.utf8ByteSize = (index + 1 + count) * 2 := by omega
          obtain ⟨parsed, returned, value⟩ := induction sizeLater
          rw [later] at value
          refine ⟨_, by rw [returned]; rfl, ?_⟩
          cases parsed with
          | none => simp [readPairs, read, ← value]
          | some octets => simp [readPairs, read, ← value]

structure AsciiText (size : Nat) where
  text : String
  length : text.toList.length = size
  ascii : IsAscii text

theorem ascii_text_bytes {size : Nat} (hex : AsciiText size) :
    strBytes hex.text = hex.text.toList.map asciiByte :=
  str_bytes_ascii hex.ascii

theorem hex_pairs_ascii {hex : String} {index count : Nat} {octets : Octets count}
    (parsed : hexPairs hex index count = .ok (some octets)) :
    ∀ byte ∈ ((strBytes hex).drop (index * 2)).take (count * 2), byte.toNat < 128 := by
  induction count generalizing index with
  | zero => simp
  | succ count induction =>
      have start : IsCharBoundary hex (index * 2) := by
        by_contra inside
        rw [hexPairs, strSlice, if_neg (by omega), if_neg (fun both => inside both.1)] at parsed
        cases parsed
      rw [hexPairs, slice_pair start] at parsed
      split at parsed
      · rw [sliced_bind_ok] at parsed
        cases read : fromStrRadix (pairAt hex index) with
        | none => simp [read] at parsed
        | some byte =>
            cases tail : hexPairs hex (index + 1) count with
            | error panic => simp [read, tail] at parsed
            | ok rest =>
                cases rest with
                | none => simp [read, tail] at parsed
                | some later =>
                    have front := number_ascii read
                    have back := induction tail
                    rw [Nat.succ_mul, Nat.add_comm, List.take_add, List.forall_mem_append,
                      List.drop_drop]
                    rw [Nat.succ_mul] at back
                    exact ⟨front, back⟩
      · cases parsed

theorem accepted_ascii {text : String} {id : ShortId} (parsed : parseHexId text = .ok (some id)) :
    ∃ hex : AsciiText 16, hex.text = text := by
  unfold parseHexId at parsed
  split at parsed
  · cases parsed
  · next size =>
      have size : (strBytes text).length = 16 := not_not.mp size
      have small := hex_pairs_ascii parsed
      rw [Nat.zero_mul, List.drop_zero, List.take_of_length_le (by omega)] at small
      have ascii := ascii_of_bytes small
      rw [str_bytes_ascii ascii, List.length_map] at size
      exact ⟨⟨text, size, ascii⟩, rfl⟩

theorem parse_hex_id_iff (hex : AsciiText 16) (id : ShortId) :
    parseHexId hex.text = .ok (some id) ↔
      readPairs (hex.text.toList.map asciiByte) = some id.val := by
  have size : hex.text.utf8ByteSize = 16 := by
    rw [← strBytes_length, ascii_text_bytes, List.length_map, hex.length]
  have whole : ∀ index ≤ hex.text.utf8ByteSize, IsCharBoundary hex.text index := by
    intro index inside
    exact ascii_char_boundary hex.ascii (by rw [hex.length, ← size]; exact inside)
  have sixteen : hex.text.utf8ByteSize = (0 + 8) * 2 := size
  obtain ⟨parsed, returned, value⟩ := hex_pairs_read whole sixteen
  rw [parseHexId, if_neg (not_not_intro size), returned]
  rw [Nat.zero_mul, List.drop_zero, ascii_text_bytes] at value
  rw [← value]
  cases parsed with
  | none => simp
  | some octets => simp [Subtype.ext_iff]

/-- Without plus signs, a text of pairs is read exactly if it is digits throughout, and
then its bytes are written as its lower case form. -/
theorem read_pairs_unsigned {chars : List Char} {count : Nat} (even : chars.length = count * 2)
    (ascii : ∀ char ∈ chars, char.toNat < 128) (unsigned : '+' ∉ chars) :
    ((readPairs (chars.map asciiByte)).isSome ↔ ∀ char ∈ chars, IsHexDigit char) ∧
    ∀ bytes, readPairs (chars.map asciiByte) = some bytes →
      bytes.flatMap hexChars = chars.map Char.toLower := by
  induction count generalizing chars with
  | zero =>
      obtain rfl : chars = [] := List.eq_nil_of_length_eq_zero (by omega)
      simp [readPairs]
  | succ count induction =>
      obtain ⟨first, second, rest, rfl⟩ := two_or_more (show 2 ≤ chars.length by omega)
      simp only [List.mem_cons, not_or] at unsigned
      have firstAscii := ascii first (by simp)
      have secondAscii := ascii second (by simp)
      obtain ⟨pairRead, pairWritten⟩ :=
        ascii_pair_read firstAscii secondAscii (Ne.symm unsigned.1)
      have evenRest : rest.length = count * 2 := by
        simp only [List.length_cons] at even
        omega
      have asciiRest : ∀ char ∈ rest, char.toNat < 128 :=
        fun char member => ascii char (by simp [member])
      obtain ⟨restRead, restWritten⟩ := induction evenRest asciiRest unsigned.2.2
      constructor
      · simp only [List.map_cons, read_pairs_cons_isSome, pairRead, restRead,
          List.forall_mem_cons, and_assoc]
      · intro bytes read
        obtain ⟨byte, later, readPair, readRest, rfl⟩ := read_pairs_cons_iff.mp read
        rw [List.flatMap_cons, pairWritten byte readPair, restWritten later readRest]
        rfl

/-- Every pair is a digit behind a digit or a plus sign. -/
def NumberPairs : List Char → Prop
  | [] => True
  | [_] => False
  | first :: second :: rest =>
      (IsHexDigit first ∨ first = '+') ∧ IsHexDigit second ∧ NumberPairs rest

instance decidableNumberPairs : DecidablePred NumberPairs
  | [] => .isTrue trivial
  | [_] => .isFalse id
  | first :: second :: rest =>
      have : Decidable (NumberPairs rest) := decidableNumberPairs rest
      inferInstanceAs (Decidable
        ((IsHexDigit first ∨ first = '+') ∧ IsHexDigit second ∧ NumberPairs rest))

theorem read_pairs_iff {chars : List Char} (ascii : ∀ char ∈ chars, char.toNat < 128) :
    (readPairs (chars.map asciiByte)).isSome ↔ NumberPairs chars := by
  fun_induction NumberPairs chars with
  | case1 => simp [readPairs]
  | case2 => simp [readPairs]
  | case3 first second rest induction =>
      have tail := induction fun char member => ascii char (by simp [member])
      rw [List.map_cons, List.map_cons, read_pairs_cons_isSome,
        pair_read_iff (ascii first (by simp)) (ascii second (by simp)), tail, and_assoc]

theorem signed_read_small {chars : List Char} {bytes : Bytes}
    (ascii : ∀ char ∈ chars, char.toNat < 128) (sign : '+' ∈ chars)
    (read : readPairs (chars.map asciiByte) = some bytes) : ∃ byte ∈ bytes, byte.toNat < 16 := by
  have pairs : NumberPairs chars := (read_pairs_iff ascii).mp (Option.isSome_of_eq_some read)
  fun_induction NumberPairs chars generalizing bytes with
  | case1 => exact absurd sign List.not_mem_nil
  | case2 => exact absurd pairs id
  | case3 first second rest induction =>
      obtain ⟨-, secondDigit, later⟩ := pairs
      obtain ⟨byte, tail, readPair, readRest, rfl⟩ := read_pairs_cons_iff.mp read
      rcases List.mem_cons.mp sign with rfl | behind
      · exact ⟨byte, List.mem_cons_self, signed_pair_small (ascii second (by simp)) readPair⟩
      · rcases List.mem_cons.mp behind with rfl | inRest
        · exact absurd secondDigit plus_no_digit
        · obtain ⟨small, listed, bound⟩ := induction
            (fun char member => ascii char (by simp [member])) inRest readRest later
          exact ⟨small, List.mem_cons_of_mem _ listed, bound⟩

def signedChars (byte : UInt8) : List Char :=
  if byte.toNat < 16 then ['+', lowerDigit byte.toNat] else hexChars byte

theorem signed_pair_read (byte : UInt8) :
    fromStrRadix ((signedChars byte).map asciiByte) = some byte := by
  unfold signedChars
  split_ifs with small
  · have digit := (lower_digit_read _ small).1
    have ascii := (lower_digit_unsigned _ small).1
    exact (signed_pair_digit ascii).trans (by rw [digit, Option.map_some, UInt8.ofNat_toNat])
  · exact written_pair_read byte

/-- A way to write bytes that the parser reads back. -/
structure Readable (write : UInt8 → List Char) : Prop where
  pair : ∀ byte, (write byte).length = 2
  read : ∀ byte, fromStrRadix ((write byte).map asciiByte) = some byte
  lower : ∀ byte, ∀ char ∈ write byte, char.toNat < 128 ∧ char.toLower = char

theorem hex_chars_lower (byte : UInt8) :
    ∀ char ∈ hexChars byte, char.toNat < 128 ∧ char ≠ '+' ∧ char.toLower = char := by
  have bound := byte.toNat_lt
  simp only [hexChars, List.forall_mem_cons]
  exact ⟨lower_digit_unsigned _ (by omega), lower_digit_unsigned _ (by omega),
    fun _ listed => absurd listed List.not_mem_nil⟩

theorem hex_chars_readable : Readable hexChars where
  pair := fun _ => rfl
  read := written_pair_read
  lower := fun byte char member =>
    ⟨(hex_chars_lower byte char member).1, (hex_chars_lower byte char member).2.2⟩

theorem signed_chars_readable : Readable signedChars where
  pair := by
    intro byte
    unfold signedChars
    split_ifs <;> rfl
  read := signed_pair_read
  lower := by
    intro byte
    unfold signedChars
    split_ifs with small
    · obtain ⟨ascii, -, lower⟩ := lower_digit_unsigned _ small
      simp only [List.forall_mem_cons]
      exact ⟨by decide +kernel, ⟨ascii, lower⟩, fun _ listed => absurd listed List.not_mem_nil⟩
    · exact hex_chars_readable.lower byte

section Writing

variable {write : UInt8 → List Char}

theorem read_pairs_written (readable : Readable write) (bytes : Bytes) :
    readPairs ((bytes.flatMap write).map asciiByte) = some bytes := by
  induction bytes with
  | nil => rfl
  | cons byte rest induction =>
      obtain ⟨first, second, pair⟩ := List.length_eq_two.mp (readable.pair byte)
      have read := readable.read byte
      rw [List.flatMap_cons, List.map_append, pair]
      rw [pair] at read
      exact read_pairs_cons_iff.mpr ⟨byte, rest, read, induction, rfl⟩

theorem written_lower (readable : Readable write) (bytes : Bytes) :
    ∀ char ∈ bytes.flatMap write, char.toNat < 128 ∧ char.toLower = char := by
  intro char member
  obtain ⟨byte, _, written⟩ := List.mem_flatMap.mp member
  exact readable.lower byte char written

theorem written_length (readable : Readable write) (bytes : Bytes) :
    (bytes.flatMap write).length = bytes.length * 2 := by
  induction bytes with
  | nil => rfl
  | cons byte rest induction =>
      rw [List.flatMap_cons, List.length_append, readable.pair, induction, List.length_cons]
      omega

def writtenText (readable : Readable write) (id : ShortId) : AsciiText 16 where
  text := String.ofList (id.val.flatMap write)
  length := by rw [String.toList_ofList, written_length readable, id.property]
  ascii := by
    intro char member
    rw [String.toList_ofList] at member
    exact (written_lower readable id.val char member).1

theorem written_text_read (readable : Readable write) (id : ShortId) :
    parseHexId (writtenText readable id).text = .ok (some id) := by
  rw [parse_hex_id_iff, writtenText, String.toList_ofList]
  exact read_pairs_written readable id.val

end Writing

theorem hex_round_trip (id : ShortId) : parseHexId (shortIdToHex id) = .ok (some id) :=
  written_text_read hex_chars_readable id

theorem written_hex_unsigned (id : ShortId) : '+' ∉ (shortIdToHex id).toList := by
  rw [shortIdToHex, String.toList_ofList]
  intro sign
  obtain ⟨byte, -, digit⟩ := List.mem_flatMap.mp sign
  exact (hex_chars_lower byte '+' digit).2.1 rfl

/-! ## Exactness -/

/-- `str::to_ascii_lowercase`. -/
def lowerCase (text : String) : String := String.ofList (text.toList.map Char.toLower)

def Accepts (parse : String → Sliced (Option ShortId)) (text : String) : Prop :=
  ∃ id, parse text = .ok (some id)

/-- The parser accepts the text exactly if it is hexadecimal digits, and reads the id
that is written as its lower case form. -/
def HexExact (parse : String → Sliced (Option ShortId)) (text : String) : Prop :=
  (Accepts parse text ↔ ∀ char ∈ text.toList, IsHexDigit char) ∧
    ∀ id, parse text = .ok (some id) → shortIdToHex id = lowerCase text

/-- The hexadecimal part of a device name. -/
def parseNamedHex (text : String) : Sliced (Option ShortId) :=
  parseShortIdFromServiceName (p2pServiceName ++ ":" ++ text)

theorem parse_named_hex (text : String) : parseNamedHex text = parseHexId text := by
  rw [parseNamedHex, parseShortIdFromServiceName, parseServiceName, strip_start_eq_some_iff.mpr rfl]

theorem accepts_iff_read (hex : AsciiText 16) :
    Accepts parseHexId hex.text ↔ (readPairs (hex.text.toList.map asciiByte)).isSome := by
  constructor
  · rintro ⟨id, parsed⟩
    exact Option.isSome_of_eq_some ((parse_hex_id_iff hex id).mp parsed)
  · intro readable
    obtain ⟨bytes, read⟩ := Option.isSome_iff_exists.mp readable
    have eight : bytes.length = 8 := by
      have size := read_pairs_length read
      rw [List.length_map, hex.length] at size
      omega
    exact ⟨⟨bytes, eight⟩, (parse_hex_id_iff hex _).mpr read⟩

theorem unsigned_exact (hex : AsciiText 16) (unsigned : '+' ∉ hex.text.toList) :
    HexExact parseHexId hex.text := by
  have pairs : hex.text.toList.length = 8 * 2 := hex.length
  obtain ⟨read, written⟩ := read_pairs_unsigned pairs hex.ascii unsigned
  refine ⟨(accepts_iff_read hex).trans read, ?_⟩
  intro id parsed
  rw [shortIdToHex, written id.val ((parse_hex_id_iff hex id).mp parsed)]
  rfl

theorem accepts_iff_pairs (hex : AsciiText 16) :
    Accepts parseHexId hex.text ↔ NumberPairs hex.text.toList :=
  (accepts_iff_read hex).trans (read_pairs_iff hex.ascii)

/-- A plus sign in a text of numbers is the only exception. -/
theorem hex_exact_iff (hex : AsciiText 16) :
    HexExact parseHexId hex.text ↔
      ¬ (NumberPairs hex.text.toList ∧ '+' ∈ hex.text.toList) := by
  rw [← accepts_iff_pairs hex]
  constructor
  · rintro ⟨digits, _⟩ ⟨accepted, sign⟩
    exact plus_no_digit (digits.mp accepted '+' sign)
  · intro never
    by_cases sign : '+' ∈ hex.text.toList
    · have rejected : ¬ Accepts parseHexId hex.text := fun accepted => never ⟨accepted, sign⟩
      refine ⟨⟨fun accepted => absurd accepted rejected, ?_⟩, ?_⟩
      · exact fun digits => absurd (digits '+' sign) plus_no_digit
      · exact fun id parsed => absurd ⟨id, parsed⟩ rejected
    · exact unsigned_exact hex sign

def lowerAddresses (id : ShortId) : Set String :=
  {address | lowerCase address = address ∧ hexToShortId address = .ok (some id)}

theorem lower_address_unique {id : ShortId} {address : String}
    (denotes : address ∈ lowerAddresses id) (unsigned : '+' ∉ address.toList) :
    address = shortIdToHex id := by
  obtain ⟨lower, parsed⟩ := denotes
  obtain ⟨hex, rfl⟩ := accepted_ascii parsed
  rw [(unsigned_exact hex unsigned).2 id parsed, lower]

theorem written_text_denotes {write : UInt8 → List Char} (readable : Readable write)
    (id : ShortId) : (writtenText readable id).text ∈ lowerAddresses id := by
  refine ⟨?_, written_text_read readable id⟩
  have lower : (id.val.flatMap write).map Char.toLower = id.val.flatMap write := by
    conv_rhs => rw [← List.map_id (id.val.flatMap write)]
    exact List.map_congr_left fun char member => (written_lower readable id.val char member).2
  rw [lowerCase, writtenText, String.toList_ofList, lower]

/-- Some lower case address of the peer has a sign in it exactly if a byte of its id is
written with a leading zero. -/
theorem lower_addresses_unsigned_iff (id : ShortId) :
    (∀ address ∈ lowerAddresses id, '+' ∉ address.toList) ↔
      ∀ byte ∈ id.val, 16 ≤ byte.toNat := by
  constructor
  · intro unsigned byte listed
    by_contra small
    refine unsigned _ (written_text_denotes signed_chars_readable id) ?_
    rw [writtenText, String.toList_ofList]
    refine List.mem_flatMap.mpr ⟨byte, listed, ?_⟩
    simp [signedChars, Nat.lt_of_not_le small]
  · intro large address denotes sign
    obtain ⟨hex, rfl⟩ := accepted_ascii denotes.2
    obtain ⟨byte, listed, small⟩ :=
      signed_read_small hex.ascii sign ((parse_hex_id_iff hex id).mp denotes.2)
    exact absurd small (Nat.not_lt.mpr (large byte listed))

theorem lower_addresses_subsingleton_iff (id : ShortId) :
    (lowerAddresses id).Subsingleton ↔ ∀ byte ∈ id.val, 16 ≤ byte.toNat := by
  rw [← lower_addresses_unsigned_iff]
  constructor
  · intro single address denotes
    rw [single denotes (written_text_denotes hex_chars_readable id)]
    exact written_hex_unsigned id
  · intro unsigned address denotes other otherDenotes
    rw [lower_address_unique denotes (unsigned address denotes),
      lower_address_unique otherDenotes (unsigned other otherDenotes)]

/-- Ids survive being written and read. A text of sixteen ASCII characters is read exactly
unless each of its pairs is a digit behind a digit or a plus sign and there is such a sign,
and a peer has one address in lower case exactly if every byte of its id has two digits. -/
theorem short_id_hex_exact_iff (id : ShortId) (hex : AsciiText 16) :
    hexToShortId (shortIdToHex id) = .ok (some id) ∧
    (HexExact hexToShortId hex.text ↔
      ¬ (NumberPairs hex.text.toList ∧ '+' ∈ hex.text.toList)) ∧
    (HexExact parseNamedHex hex.text ↔
      ¬ (NumberPairs hex.text.toList ∧ '+' ∈ hex.text.toList)) ∧
    ((lowerAddresses id).Subsingleton ↔ ∀ byte ∈ id.val, 16 ≤ byte.toNat) := by
  refine ⟨hex_round_trip id, hex_exact_iff hex, ?_, lower_addresses_subsingleton_iff id⟩
  rw [show parseNamedHex = parseHexId from funext parse_named_hex]
  exact hex_exact_iff hex

def signedHex : AsciiText 16 := ⟨"+1+1+1+1+1+1+1+1", by decide, by decide⟩

def plainHex : AsciiText 16 := ⟨"0101010101010101", by decide, by decide⟩

/-- Half of the text is signs, and both parsers still read the id of ones, as they do from
its digits. -/
theorem signed_hex_accepted :
    hexToShortId signedHex.text = .ok (some ⟨List.replicate 8 1, rfl⟩) ∧
      hexToShortId plainHex.text = .ok (some ⟨List.replicate 8 1, rfl⟩) ∧
      parseShortIdFromServiceName (p2pServiceName ++ ":" ++ signedHex.text) =
        .ok (some ⟨List.replicate 8 1, rfl⟩) ∧
      ¬ (∀ char ∈ signedHex.text.toList, IsHexDigit char) ∧
      shortIdToHex ⟨List.replicate 8 1, rfl⟩ ≠ lowerCase signedHex.text ∧
      lowerCase signedHex.text = signedHex.text ∧ lowerCase plainHex.text = plainHex.text ∧
      signedHex.text ≠ plainHex.text := by
  refine ⟨by decide +kernel, by decide +kernel, by decide +kernel, ?_, by decide +kernel⟩
  intro digits
  exact plus_no_digit (digits '+' (by decide +kernel))

end Pathweave
