import Mathlib

/-!
The byte layouts the contracts are signed and framed in: bincode 1.x with its
default fixed-width little-endian integers, 64-bit lengths, 32-bit variant
indices and one-byte option tags, and the hyphenated text form of a UUID.
-/

namespace Misaka.Bincode

-- Decided element by element, not over all values of a finite type.
instance (priority := high) decideElements {Value : Type} {holds : Value → Prop}
    [DecidablePred holds] (values : List Value) : Decidable (∀ value ∈ values, holds value) :=
  List.decidableBAll holds values

/-- A fixed-size byte array; the size is part of the value. -/
@[ext]
structure Bytes (size : Nat) where
  toList : List UInt8
  size_eq : toList.length = size
deriving DecidableEq

def Bytes.fill (size : Nat) (byte : UInt8) : Bytes size :=
  ⟨List.replicate size byte, List.length_replicate⟩

def littleEndian : Nat → Nat → List UInt8
  | 0, _ => []
  | width + 1, value => UInt8.ofNat value :: littleEndian width (value / 256)

def ofLittleEndian : List UInt8 → Nat
  | [] => 0
  | byte :: rest => byte.toNat + 256 * ofLittleEndian rest

def bigEndian (width value : Nat) : List UInt8 := (littleEndian width value).reverse

def ofBigEndian (bytes : List UInt8) : Nat := ofLittleEndian bytes.reverse

theorem little_endian_length (width value : Nat) : (littleEndian width value).length = width := by
  induction width generalizing value with
  | zero => rfl
  | succ width ih => simp [littleEndian, ih]

theorem of_little_endian_encoding (width value : Nat) (fits : value < 256 ^ width) :
    ofLittleEndian (littleEndian width value) = value := by
  induction width generalizing value with
  | zero => simp only [Nat.pow_zero] at fits; simp [littleEndian, ofLittleEndian]; omega
  | succ width ih =>
    have smaller : value / 256 < 256 ^ width := by
      rw [Nat.div_lt_iff_lt_mul (by decide)]
      simpa [Nat.pow_succ] using fits
    rw [littleEndian, ofLittleEndian, ih _ smaller, UInt8.toNat_ofNat']
    omega

theorem of_big_endian_encoding (width value : Nat) (fits : value < 256 ^ width) :
    ofBigEndian (bigEndian width value) = value := by
  rw [ofBigEndian, bigEndian, List.reverse_reverse, of_little_endian_encoding width value fits]

def u16 (value : UInt16) : List UInt8 := littleEndian 2 value.toNat

def u32 (value : UInt32) : List UInt8 := littleEndian 4 value.toNat

def u64 (value : UInt64) : List UInt8 := littleEndian 8 value.toNat

def length64 (length : Nat) : List UInt8 := littleEndian 8 length

def variant (index : Nat) : List UInt8 := littleEndian 4 index

def bool (value : Bool) : List UInt8 := [if value then 1 else 0]

def option {Value : Type} (encode : Value → List UInt8) : Option Value → List UInt8
  | none => [0]
  | some value => 1 :: encode value

def sequence {Value : Type} (encode : Value → List UInt8) (values : List Value) : List UInt8 :=
  length64 values.length ++ values.flatMap encode

-- `serialize_bytes`: a length even when the array has a fixed size.
def byteString (bytes : List UInt8) : List UInt8 := length64 bytes.length ++ bytes

def utf8 (text : String) : List UInt8 := text.toList.flatMap String.utf8EncodeChar

def text (value : String) : List UInt8 := byteString (utf8 value)

def hexDigit (value : Nat) : Char :=
  if value < 10 then Char.ofNat (48 + value) else Char.ofNat (87 + value)

def hex (bytes : List UInt8) : List Char :=
  bytes.flatMap fun byte => [hexDigit (byte.toNat / 16), hexDigit (byte.toNat % 16)]

def uuidText (uuid : Bytes 16) : String :=
  let group (start count : Nat) := hex ((uuid.toList.drop start).take count)
  String.ofList <|
    group 0 4 ++ '-' :: group 4 2 ++ '-' :: group 6 2 ++ '-' :: group 8 2 ++ '-' :: group 10 6

theorem utf8_length_le (value : String) : (utf8 value).length ≤ 4 * value.toList.length := by
  unfold utf8
  induction value.toList with
  | nil => simp
  | cons char rest ih =>
    have size : (String.utf8EncodeChar char).length ≤ 4 := by
      rw [String.length_utf8EncodeChar]
      exact Char.utf8Size_le_four char
    simp only [List.flatMap_cons, List.length_append, List.length_cons]
    omega

theorem hex_length (bytes : List UInt8) : (hex bytes).length = 2 * bytes.length := by
  induction bytes with
  | nil => rfl
  | cons byte rest ih =>
    simp only [hex, List.flatMap_cons, List.length_append, List.length_cons] at ih ⊢
    simp only [List.length_nil] at ih ⊢
    omega

theorem uuid_text_length_le (uuid : Bytes 16) : (uuidText uuid).toList.length ≤ 36 := by
  simp only [uuidText, String.toList_ofList, List.length_append, List.length_cons, hex_length,
    List.length_take, List.length_drop, uuid.size_eq]
  omega

example : uuidText (Bytes.fill 16 0xa7) = "a7a7a7a7-a7a7-a7a7-a7a7-a7a7a7a7a7a7" := by decide
end Misaka.Bincode
