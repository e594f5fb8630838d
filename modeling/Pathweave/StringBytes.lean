import Pathweave.ByteStrings

/-!
# Strings as UTF-8 bytes

A Rust `str` is a byte slice that holds valid UTF-8. Its length counts bytes, and a
slice of it panics unless both ends are the start of a character or the end of the
string. A prefix of a string is a string again exactly at such a boundary.
-/

namespace Pathweave.StringBytes

open ByteStrings

set_option autoImplicit false

/-- `str::as_bytes`. -/
def strBytes (text : String) : Bytes := text.toByteArray.data.toList

/-- `str::from_utf8`. -/
def fromUtf8 (bytes : Bytes) : Option String := String.fromUTF8? bytes.toByteArray

/-- `str::is_char_boundary`. -/
def IsCharBoundary (text : String) (index : Nat) : Prop := String.Pos.Raw.IsValid text ⟨index⟩

instance (text : String) (index : Nat) : Decidable (IsCharBoundary text index) :=
  inferInstanceAs (Decidable (String.Pos.Raw.IsValid text ⟨index⟩))

inductive SlicePanic where
  | outOfOrder
  | notCharBoundary
  deriving DecidableEq, Repr

abbrev Sliced := Except SlicePanic

@[simp] theorem sliced_bind_ok {First Second : Type} (value : First)
    (next : First → Sliced Second) : ((.ok value : Sliced First) >>= next) = next value := rfl

@[simp] theorem sliced_bind_error {First Second : Type} (panic : SlicePanic)
    (next : First → Sliced Second) : ((.error panic : Sliced First) >>= next) = .error panic := rfl

def Returns {Result : Type} (call : Sliced Result) : Prop := ∃ result, call = .ok result

@[simp] theorem returns_ok {Result : Type} (result : Result) :
    Returns (.ok result : Sliced Result) := ⟨result, rfl⟩

@[simp] theorem not_returns_error {Result : Type} (panic : SlicePanic) :
    ¬ Returns (.error panic : Sliced Result) := by
  intro returned
  obtain ⟨result, same⟩ := returned
  cases same

theorem returns_bind_iff {First Second : Type} {call : Sliced First}
    {next : First → Sliced Second} (always : ∀ value, Returns (next value)) :
    Returns (call >>= next) ↔ Returns call := by
  cases call with
  | error panic => simp
  | ok value => simp [always]

/-- `&text[start..stop]`, as the bytes of the slice. A position behind the end is not a
boundary. -/
def strSlice (text : String) (start stop : Nat) : Sliced Bytes :=
  if stop < start then .error .outOfOrder
  else if IsCharBoundary text start ∧ IsCharBoundary text stop then
    .ok (((strBytes text).drop start).take (stop - start))
  else .error .notCharBoundary

theorem strBytes_length (text : String) : (strBytes text).length = text.utf8ByteSize := rfl

theorem from_utf8_eq_some_iff {bytes : Bytes} {text : String} :
    fromUtf8 bytes = some text ↔ strBytes text = bytes := by
  have content : bytes.toByteArray.data.toList = bytes := by simp
  unfold fromUtf8 String.fromUTF8?
  constructor
  · intro read
    split at read
    · cases read
      exact content
    · cases read
  · intro same
    have array : text.toByteArray = bytes.toByteArray := by
      apply ByteArray.ext
      apply Array.ext'
      rw [content]
      exact same
    rw [dif_pos (array ▸ text.isValidUTF8), Option.some.injEq, ← String.toByteArray_inj]
    exact array.symm

@[simp] theorem from_utf8_str_bytes (text : String) : fromUtf8 (strBytes text) = some text :=
  from_utf8_eq_some_iff.mpr rfl

/-- Cutting a string leaves a string exactly at a character boundary. -/
theorem from_utf8_take_isSome_iff {text : String} {index : Nat}
    (inside : index ≤ text.utf8ByteSize) :
    (fromUtf8 ((strBytes text).take index)).isSome ↔ IsCharBoundary text index := by
  have cut : ((strBytes text).take index).toByteArray = text.toByteArray.extract 0 index := by
    apply ByteArray.ext
    apply Array.ext'
    simp [strBytes]
  unfold fromUtf8 String.fromUTF8? IsCharBoundary
  rw [cut, String.Pos.Raw.isValid_iff_isValidUTF8_extract_zero]
  have fits : (⟨index⟩ : String.Pos.Raw) ≤ text.rawEndPos := inside
  split
  · next valid => simp [valid, fits]
  · next broken => simp [broken]

/-! ## ASCII -/

def asciiByte (char : Char) : UInt8 := UInt8.ofNat char.toNat

def IsAscii (text : String) : Prop := ∀ char ∈ text.toList, char.toNat < 128

instance : DecidablePred IsAscii := fun text =>
  List.decidableBAll (fun char : Char => char.toNat < 128) text.toList

theorem str_bytes_of_list (chars : List Char) :
    strBytes (String.ofList chars) = chars.flatMap String.utf8EncodeChar := by
  rw [strBytes, String.toByteArray_ofList]
  simp [List.utf8Encode]

theorem encode_ascii {char : Char} (ascii : char.toNat < 128) :
    String.utf8EncodeChar char = [asciiByte char] := by
  have small : char.val ≤ 127 := by
    rw [UInt32.le_iff_toNat_le]
    exact Nat.le_of_lt_succ ascii
  rw [String.utf8EncodeChar_eq_singleton (Char.utf8Size_eq_one_iff.mpr small)]
  rfl

theorem str_bytes_ascii {text : String} (ascii : IsAscii text) :
    strBytes text = text.toList.map asciiByte := by
  have bytes := str_bytes_of_list text.toList
  rw [String.ofList_toList] at bytes
  rw [bytes]
  unfold IsAscii at ascii
  generalize text.toList = chars at ascii
  induction chars with
  | nil => rfl
  | cons char rest induction =>
      rw [List.flatMap_cons, encode_ascii (ascii char List.mem_cons_self),
        induction fun later member => ascii later (List.mem_cons_of_mem _ member)]
      rfl

theorem str_bytes_injective {text other : String} (same : strBytes text = strBytes other) :
    text = other := by
  have read := from_utf8_str_bytes text
  rw [same, from_utf8_str_bytes] at read
  exact (Option.some.inj read).symm

theorem ascii_of_bytes {text : String} (small : ∀ byte ∈ strBytes text, byte.toNat < 128) :
    IsAscii text := by
  have code : ∀ byte ∈ strBytes text, (Char.ofNat byte.toNat).toNat = byte.toNat := by
    intro byte member
    have bound := small byte member
    have valid : byte.toNat.isValidChar := Or.inl (by omega)
    rw [Char.ofNat, dif_pos valid]
    rfl
  have ascii : IsAscii (String.ofList ((strBytes text).map fun byte => Char.ofNat byte.toNat)) := by
    intro char member
    rw [String.toList_ofList] at member
    obtain ⟨byte, inside, rfl⟩ := List.mem_map.mp member
    rw [code byte inside]
    exact small byte inside
  have same : strBytes (String.ofList ((strBytes text).map fun byte => Char.ofNat byte.toNat)) =
      strBytes text := by
    rw [str_bytes_ascii ascii, String.toList_ofList, List.map_map]
    refine (List.map_congr_left ?_).trans (List.map_id _)
    intro byte member
    simp [asciiByte, code byte member]
  rwa [str_bytes_injective same] at ascii

theorem ascii_char_boundary {text : String} (ascii : IsAscii text) {index : Nat}
    (inside : index ≤ text.toList.length) : IsCharBoundary text index := by
  have size : text.utf8ByteSize = text.toList.length := by
    rw [← strBytes_length, str_bytes_ascii ascii, List.length_map]
  have front : IsAscii (String.ofList (text.toList.take index)) := by
    intro char member
    rw [String.toList_ofList] at member
    exact ascii char (List.mem_of_mem_take member)
  have cut : strBytes (String.ofList (text.toList.take index)) = (strBytes text).take index := by
    rw [str_bytes_ascii front, str_bytes_ascii ascii, String.toList_ofList, List.map_take]
  rw [← from_utf8_take_isSome_iff (inside.trans size.ge), ← cut, from_utf8_str_bytes]
  rfl

end Pathweave.StringBytes
