import Mathlib.Data.List.GetD
import Mathlib.Data.List.Induction
import Mathlib.Tactic.Ring

/-!
# Byte strings with checked access

Rust indexes byte slices and subtracts machine integers with checks that panic.
`Checked` keeps the panic visible, so that a codec which never panics is a
theorem about it and not a property of the encoding. Fixed-length arrays carry
their length. Words are read and written most significant byte first.
-/

namespace Pathweave.ByteStrings

set_option autoImplicit false

abbrev Bytes := List UInt8

inductive Panic where
  | indexOutOfBounds
  | arithmeticOverflow
  deriving DecidableEq, Repr

abbrev Checked := Except Panic

@[simp] theorem checked_bind_ok {First Second : Type} (value : First)
    (next : First → Checked Second) : ((.ok value : Checked First) >>= next) = next value := rfl

/-- An array `[u8; size]`. -/
abbrev Octets (size : Nat) := { bytes : Bytes // bytes.length = size }

def byteAt (bytes : Bytes) (index : Nat) : Checked UInt8 :=
  match bytes[index]? with
  | some byte => .ok byte
  | none => .error .indexOutOfBounds

def slice (bytes : Bytes) (start stop : Nat) : Checked Bytes :=
  if start ≤ stop ∧ stop ≤ bytes.length then .ok ((bytes.drop start).take (stop - start))
  else .error .indexOutOfBounds

def sliceFrom (bytes : Bytes) (start : Nat) : Checked Bytes :=
  slice bytes start bytes.length

/-- `try_into().expect(..)` from a slice to an array. -/
def toOctets (size : Nat) (bytes : Bytes) : Checked (Octets size) :=
  if exact : bytes.length = size then .ok ⟨bytes, exact⟩ else .error .indexOutOfBounds

def octetsAt (bytes : Bytes) (start size : Nat) (inside : start + size ≤ bytes.length) :
    Octets size :=
  ⟨(bytes.drop start).take size, by
    simp only [List.length_take, List.length_drop]
    omega⟩

def arrayAt (bytes : Bytes) (start size : Nat) : Checked (Octets size) := do
  toOctets size (← slice bytes start (start + size))

def decrement (byte : UInt8) : Checked UInt8 :=
  if byte = 0 then .error .arithmeticOverflow else .ok (byte - 1)

theorem byteAt_of_getElem? {bytes : Bytes} {index : Nat} {byte : UInt8}
    (found : bytes[index]? = some byte) : byteAt bytes index = .ok byte := by
  simp [byteAt, found]

theorem byteAt_of_lt {bytes : Bytes} {index : Nat} (inside : index < bytes.length) :
    byteAt bytes index = .ok (bytes.getD index 0) := by
  apply byteAt_of_getElem?
  simp [List.getD_eq_getElem?_getD, List.getElem?_eq_getElem inside]

theorem slice_of_le {bytes : Bytes} {start stop : Nat}
    (ordered : start ≤ stop) (inside : stop ≤ bytes.length) :
    slice bytes start stop = .ok ((bytes.drop start).take (stop - start)) := by
  simp [slice, ordered, inside]

theorem sliceFrom_of_le {bytes : Bytes} {start : Nat} (inside : start ≤ bytes.length) :
    sliceFrom bytes start = .ok (bytes.drop start) := by
  rw [sliceFrom, slice_of_le inside (Nat.le_refl _)]
  rw [List.take_of_length_le (by simp)]

theorem toOctets_of_length {size : Nat} {bytes : Bytes} (exact : bytes.length = size) :
    toOctets size bytes = .ok ⟨bytes, exact⟩ := by
  simp [toOctets, exact]

theorem arrayAt_of_le {bytes : Bytes} {start size : Nat} (inside : start + size ≤ bytes.length) :
    arrayAt bytes start size = .ok (octetsAt bytes start size inside) := by
  rw [arrayAt, slice_of_le (Nat.le_add_right _ _) inside, checked_bind_ok]
  simp only [Nat.add_sub_cancel_left]
  exact toOctets_of_length _

theorem exists_octets_append {size : Nat} {bytes : Bytes} (long : size ≤ bytes.length) :
    ∃ (octets : Octets size) (rest : Bytes), bytes = octets.val ++ rest :=
  ⟨⟨bytes.take size, by simp [long]⟩, bytes.drop size, (List.take_append_drop size bytes).symm⟩

/-! ## Reading what stands at a position -/

section Positions

variable {before rest : Bytes} {start : Nat}

theorem byteAt_append {byte : UInt8} (position : start = before.length) :
    byteAt (before ++ byte :: rest) start = .ok byte := by
  apply byteAt_of_getElem?
  simp [position]

theorem slice_append (before part rest : Bytes) {stop : Nat} (position : start = before.length)
    (size : stop = start + part.length) :
    slice (before ++ (part ++ rest)) start stop = .ok part := by
  subst position size
  rw [slice_of_le (Nat.le_add_right _ _) (by simp)]
  simp

theorem arrayAt_append {size : Nat} {octets : Octets size} (position : start = before.length) :
    arrayAt (before ++ (octets.val ++ rest)) start size = .ok octets := by
  rw [arrayAt, slice_append _ _ _ position (by rw [octets.property]), checked_bind_ok]
  exact toOctets_of_length octets.property

end Positions

theorem decremented_toNat {byte : UInt8} (positive : byte ≠ 0) :
    (byte - 1).toNat + 1 = byte.toNat := by
  have nonzero : byte.toNat ≠ 0 := fun zero => positive (UInt8.toNat_inj.mp zero)
  have one : (1 : UInt8) ≤ byte := by
    rw [UInt8.le_iff_toNat_le]
    simp only [UInt8.toNat_one]
    omega
  rw [UInt8.toNat_sub_of_le _ _ one]
  simp only [UInt8.toNat_one]
  omega

/-- The first `width` base-256 digits of `value`, most significant first. -/
def encodeBE : Nat → Nat → Bytes
  | 0, _ => []
  | width + 1, value => encodeBE width (value / 256) ++ [UInt8.ofNat value]

def decodeBE (bytes : Bytes) : Nat :=
  bytes.foldl (fun value byte => value * 256 + byte.toNat) 0

@[simp] theorem encodeBE_length (width value : Nat) :
    (encodeBE width value).length = width := by
  induction width generalizing value with
  | zero => rfl
  | succ width ih => simp [encodeBE, ih]

theorem decodeBE_encodeBE (width value : Nat) :
    decodeBE (encodeBE width value) = value % 256 ^ width := by
  induction width generalizing value with
  | zero => simp [encodeBE, decodeBE, Nat.mod_one]
  | succ width ih =>
      have high := ih (value / 256)
      simp only [decodeBE] at high
      simp only [encodeBE, decodeBE, List.foldl_append, List.foldl_cons, List.foldl_nil, high,
        UInt8.toNat_ofNat']
      rw [show (2 : Nat) ^ 8 = 256 from rfl, pow_succ, Nat.mul_comm (256 ^ width) 256, Nat.mod_mul]
      ring

theorem decodeBE_append_byte (bytes : Bytes) (byte : UInt8) :
    decodeBE (bytes ++ [byte]) = decodeBE bytes * 256 + byte.toNat := by
  simp [decodeBE]

theorem decodeBE_lt (bytes : Bytes) : decodeBE bytes < 256 ^ bytes.length := by
  induction bytes using List.reverseRecOn with
  | nil => simp [decodeBE]
  | append_singleton bytes byte ih =>
      rw [decodeBE_append_byte, List.length_append, List.length_singleton, pow_succ]
      have bounded := byte.toNat_lt
      omega

theorem encodeBE_decodeBE (bytes : Bytes) :
    encodeBE bytes.length (decodeBE bytes) = bytes := by
  induction bytes using List.reverseRecOn with
  | nil => rfl
  | append_singleton bytes byte ih =>
      have bounded := byte.toNat_lt
      have high : (decodeBE bytes * 256 + byte.toNat) / 256 = decodeBE bytes := by omega
      have low : UInt8.ofNat (decodeBE bytes * 256 + byte.toNat) = byte := by
        apply UInt8.toNat_inj.mp
        rw [UInt8.toNat_ofNat']
        omega
      rw [List.length_append, List.length_singleton, encodeBE, decodeBE_append_byte, high, low, ih]

/-- `u64::to_be_bytes`. -/
def toBeBytes (word : UInt64) : Bytes := encodeBE 8 word.toNat

def fromBeBytes (bytes : Bytes) : UInt64 := UInt64.ofNat (decodeBE bytes)

@[simp] theorem toBeBytes_length (word : UInt64) : (toBeBytes word).length = 8 :=
  encodeBE_length 8 word.toNat

@[simp] theorem fromBeBytes_toBeBytes (word : UInt64) :
    fromBeBytes (toBeBytes word) = word := by
  rw [fromBeBytes, toBeBytes, decodeBE_encodeBE]
  have bounded : word.toNat < 256 ^ 8 := word.toNat_lt
  rw [Nat.mod_eq_of_lt bounded]
  exact UInt64.ofNat_toNat

theorem toBeBytes_fromBeBytes {bytes : Bytes} (eight : bytes.length = 8) :
    toBeBytes (fromBeBytes bytes) = bytes := by
  have bounded : decodeBE bytes < 2 ^ 64 := by
    have below := decodeBE_lt bytes
    rw [eight] at below
    exact below
  have value : (fromBeBytes bytes).toNat = decodeBE bytes := by
    rw [fromBeBytes, UInt64.toNat_ofNat', Nat.mod_eq_of_lt bounded]
  rw [toBeBytes, value, ← eight]
  exact encodeBE_decodeBE bytes

end Pathweave.ByteStrings
