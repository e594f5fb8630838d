import Pathweave.ByteStrings

/-!
# Shortest-form CBOR heads

A CBOR item starts with a head that holds its major type and an argument: a number,
or the length of a string. The shortest form puts the argument into the first byte
if it fits, and otherwise into the 1, 2, 4 or 8 bytes that follow.
-/

namespace Pathweave.CborHeads

open ByteStrings

set_option autoImplicit false

def headSize (argument : Nat) : Nat :=
  if argument < 24 then 1
  else if argument < 2 ^ 8 then 2
  else if argument < 2 ^ 16 then 3
  else if argument < 2 ^ 32 then 5
  else 9

theorem head_size_mono {small large : Nat} (le : small ≤ large) :
    headSize small ≤ headSize large := by
  unfold headSize
  split_ifs <;> omega

/-- The first byte: three bits of major type, five bits of additional information. -/
def initialByte (major info : Nat) : UInt8 := UInt8.ofNat (major * 32 + info)

def encodeHead (major argument : Nat) : Bytes :=
  if argument < 24 then [initialByte major argument]
  else if argument < 2 ^ 8 then initialByte major 24 :: encodeBE 1 argument
  else if argument < 2 ^ 16 then initialByte major 25 :: encodeBE 2 argument
  else if argument < 2 ^ 32 then initialByte major 26 :: encodeBE 4 argument
  else initialByte major 27 :: encodeBE 8 argument

/-- The number of argument bytes that follow an initial byte with this information. -/
def argumentWidth (info : Nat) : Option Nat :=
  if info < 24 then some 0
  else if info = 24 then some 1
  else if info = 25 then some 2
  else if info = 26 then some 4
  else if info = 27 then some 8
  else none

def decodeHead (major : Nat) : Bytes → Option (Nat × Bytes)
  | [] => none
  | first :: rest =>
      if first.toNat / 32 = major then do
        let width ← argumentWidth (first.toNat % 32)
        if width = 0 then some (first.toNat % 32, rest)
        else if rest.length < width then none
        else some (decodeBE (rest.take width), rest.drop width)
      else none

theorem encode_head_length (major argument : Nat) :
    (encodeHead major argument).length = headSize argument := by
  unfold encodeHead headSize
  split_ifs <;> simp

theorem initial_byte_toNat {major info : Nat} (known : major < 8) (short : info < 32) :
    (initialByte major info).toNat = major * 32 + info := by
  rw [initialByte, UInt8.toNat_ofNat']
  omega

section Decoding

variable {major : Nat}

theorem decode_head_immediate {info : Nat} (known : major < 8) (immediate : info < 24)
    (suffix : Bytes) :
    decodeHead major (initialByte major info :: suffix) = some (info, suffix) := by
  have byte := initial_byte_toNat known (show info < 32 by omega)
  have upper : (major * 32 + info) / 32 = major := by omega
  have lower : (major * 32 + info) % 32 = info := by omega
  simp [decodeHead, byte, upper, lower, argumentWidth, immediate]

theorem decode_head_wide {info width argument : Nat} (known : major < 8) (short : info < 32)
    (wide : argumentWidth info = some width) (positive : width ≠ 0)
    (fits : argument < 256 ^ width) (suffix : Bytes) :
    decodeHead major (initialByte major info :: (encodeBE width argument ++ suffix)) =
      some (argument, suffix) := by
  have byte := initial_byte_toNat known short
  have upper : (major * 32 + info) / 32 = major := by omega
  have lower : (major * 32 + info) % 32 = info := by omega
  have size : (encodeBE width argument).length = width := encodeBE_length width argument
  have enough : ¬ (encodeBE width argument ++ suffix).length < width := by
    rw [List.length_append, size]
    omega
  simp only [decodeHead, byte, upper, lower, wide, if_true, Option.bind_eq_bind, Option.bind_some,
    if_neg positive, if_neg enough]
  rw [List.take_left' size, List.drop_left' size, decodeBE_encodeBE, Nat.mod_eq_of_lt fits]

theorem decode_encode_head {argument : Nat} (known : major < 8) (fits : argument < 2 ^ 64)
    (suffix : Bytes) :
    decodeHead major (encodeHead major argument ++ suffix) = some (argument, suffix) := by
  unfold encodeHead
  split_ifs with immediate one two four
  · exact decode_head_immediate known immediate suffix
  · exact decode_head_wide known (by decide) rfl (by decide) one suffix
  · exact decode_head_wide known (by decide) rfl (by decide) two suffix
  · exact decode_head_wide known (by decide) rfl (by decide) four suffix
  · exact decode_head_wide known (by decide) rfl (by decide) fits suffix

end Decoding

end Pathweave.CborHeads
