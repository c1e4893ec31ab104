import Misaka.Bincode

/-!
When the bytes of a layout give the value back. A layout delimits its values if
it cannot be confused with a longer or a shorter one: whatever follows, equal
bytes come from equal values and leave equal rests. Fields written one after
another are then read back one after another.

A length is written in 64 bits, so texts and sequences are delimited only if
their length fits, which `Fits` says.
-/

namespace Misaka.UniqueDecoding
open Bincode

section Layouts
variable {Value : Type}

def Delimits (valid : Value → Prop) (encode : Value → List UInt8) : Prop :=
  ∀ left right rest rest', valid left → valid right →
    encode left ++ rest = encode right ++ rest' → left = right ∧ rest = rest'

abbrev DelimitsAll (encode : Value → List UInt8) : Prop := Delimits (fun _ => True) encode

variable {valid : Value → Prop} {encode : Value → List UInt8}

theorem delimited (delimits : DelimitsAll encode) {left right : Value} {rest rest' : List UInt8}
    (same : encode left ++ rest = encode right ++ rest') : left = right ∧ rest = rest' :=
  delimits left right rest rest' trivial trivial same

theorem delimits_injective (delimits : Delimits valid encode) {left right : Value}
    (leftValid : valid left) (rightValid : valid right) (same : encode left = encode right) :
    left = right := by
  have extended : encode left ++ [] = encode right ++ [] := by rw [same]
  exact (delimits left right [] [] leftValid rightValid extended).1

theorem delimits_mono {wider : Value → Prop} (delimits : Delimits wider encode)
    (weaker : ∀ value, valid value → wider value) : Delimits valid encode := by
  intro left right rest rest' leftValid rightValid same
  exact delimits left right rest rest' (weaker left leftValid) (weaker right rightValid) same

/-! Fields that are written one after another. -/
section Fields
variable {Other : Type} {other : Other → Prop} {encode' : Other → List UInt8}

theorem Delimits.append (first : Delimits valid encode) (second : Delimits other encode') :
    Delimits (fun pair : Value × Other => valid pair.1 ∧ other pair.2)
      fun pair => encode pair.1 ++ encode' pair.2 := by
  rintro ⟨left, left'⟩ ⟨right, right'⟩ rest rest' leftValid rightValid same
  simp only [List.append_assoc] at same
  obtain ⟨rfl, later⟩ := first left right _ _ leftValid.1 rightValid.1 same
  obtain ⟨rfl, equal⟩ := second left' right' _ _ leftValid.2 rightValid.2 later
  exact ⟨rfl, equal⟩

theorem Delimits.next (first : Delimits valid encode) (second : DelimitsAll encode') :
    Delimits (fun pair : Value × Other => valid pair.1)
      fun pair => encode pair.1 ++ encode' pair.2 :=
  delimits_mono (first.append second) fun _ holds => ⟨holds, trivial⟩

theorem Delimits.last (first : DelimitsAll encode) (second : Delimits other encode') :
    Delimits (fun pair : Value × Other => other pair.2)
      fun pair => encode pair.1 ++ encode' pair.2 :=
  delimits_mono (Delimits.append first second) fun _ holds => ⟨trivial, holds⟩

/-- A value that is written as its fields is delimited as they are. -/
theorem Delimits.of_fields (delimits : Delimits valid encode) (fields : Other → Value)
    (injective : Function.Injective fields) (fits : ∀ value, other value → valid (fields value))
    (written : ∀ value, encode' value = encode (fields value)) : Delimits other encode' := by
  intro left right rest rest' leftValid rightValid same
  rw [written, written] at same
  obtain ⟨equal, rests⟩ := delimits _ _ rest rest' (fits left leftValid) (fits right rightValid) same
  exact ⟨injective equal, rests⟩
end Fields

-- Layouts of one fixed size need only be told apart from each other.
theorem delimits_of_length (size : Nat) (sized : ∀ value, (encode value).length = size)
    (injective : ∀ left right, valid left → valid right → encode left = encode right →
      left = right) : Delimits valid encode := by
  intro left right rest rest' leftValid rightValid same
  have lengths : (encode left).length = (encode right).length := by rw [sized, sized]
  obtain ⟨front, back⟩ := List.append_inj same lengths
  exact ⟨injective left right leftValid rightValid front, back⟩

theorem little_endian_injective {width left right : Nat} (leftFits : left < 256 ^ width)
    (rightFits : right < 256 ^ width) (same : littleEndian width left = littleEndian width right) :
    left = right := by
  rw [← of_little_endian_encoding width left leftFits, same,
    of_little_endian_encoding width right rightFits]

theorem u16_delimits : DelimitsAll u16 := by
  refine delimits_of_length 2 (fun value => little_endian_length 2 value.toNat) ?_
  intro left right _ _ same
  exact UInt16.toNat_inj.mp
    (little_endian_injective left.toNat_lt right.toNat_lt same)

theorem u64_delimits : DelimitsAll u64 := by
  refine delimits_of_length 8 (fun value => little_endian_length 8 value.toNat) ?_
  intro left right _ _ same
  exact UInt64.toNat_inj.mp
    (little_endian_injective left.toNat_lt right.toNat_lt same)

def Fits (length : Nat) : Prop := length < 2 ^ 64

theorem length_delimits : Delimits Fits length64 := by
  apply delimits_of_length 8 fun value => little_endian_length 8 value
  intro left right leftFits rightFits same
  exact little_endian_injective leftFits rightFits same

theorem variant_delimits : Delimits (· < 2 ^ 32) variant := by
  apply delimits_of_length 4 fun value => little_endian_length 4 value
  intro left right leftFits rightFits same
  exact little_endian_injective leftFits rightFits same

theorem bytes_delimits (size : Nat) : DelimitsAll (Bytes.toList : Bytes size → List UInt8) := by
  apply delimits_of_length size fun value => value.size_eq
  intro left right _ _ same
  exact Bytes.ext same

theorem option_delimits (delimits : Delimits valid encode) :
    Delimits (fun value => ∀ found ∈ value, valid found) (option encode) := by
  intro left right rest rest' leftValid rightValid same
  cases left with
  | none =>
    cases right with
    | none => exact ⟨rfl, List.cons.inj same |>.2⟩
    | some found => cases (List.cons.inj same).1
  | some value =>
    cases right with
    | none => cases (List.cons.inj same).1
    | some found =>
      obtain ⟨rfl, equal⟩ := delimits value found rest rest' (leftValid value rfl)
        (rightValid found rfl) (List.cons.inj same).2
      exact ⟨rfl, equal⟩

theorem option_delimits_all (delimits : DelimitsAll encode) : DelimitsAll (option encode) :=
  delimits_mono (option_delimits delimits) fun _ _ _ _ => trivial

theorem byte_string_delimits : Delimits (fun bytes => Fits bytes.length) byteString := by
  intro left right rest rest' leftFits rightFits same
  obtain ⟨lengths, equal⟩ := length_delimits _ _ _ _ leftFits rightFits same
  exact List.append_inj equal lengths

theorem signature_delimits (size : Nat) (fits : Fits size) :
    DelimitsAll fun bytes : Bytes size => byteString bytes.toList := by
  intro left right rest rest' _ _ same
  have sized : ∀ bytes : Bytes size, Fits bytes.toList.length := by
    intro bytes
    rw [bytes.size_eq]
    exact fits
  obtain ⟨bytes, equal⟩ := byte_string_delimits _ _ _ _ (sized left) (sized right) same
  exact ⟨Bytes.ext bytes, equal⟩

theorem utf8_injective {left right : String} (same : utf8 left = utf8 right) : left = right := by
  have bytes : left.toList.utf8Encode = right.toList.utf8Encode := by
    simp only [List.utf8Encode]
    exact congrArg _ same
  rw [String.utf8Encode_toList, String.utf8Encode_toList] at bytes
  exact String.toByteArray_inj.mp bytes

theorem text_delimits : Delimits (fun value => Fits (utf8 value).length) text := by
  intro left right rest rest' leftFits rightFits same
  obtain ⟨bytes, equal⟩ := byte_string_delimits _ _ _ _ leftFits rightFits same
  exact ⟨utf8_injective bytes, equal⟩

theorem flat_map_delimits (delimits : Delimits valid encode) {left right : List Value}
    {rest rest' : List UInt8} (lengths : left.length = right.length)
    (leftValid : ∀ value ∈ left, valid value) (rightValid : ∀ value ∈ right, valid value)
    (same : left.flatMap encode ++ rest = right.flatMap encode ++ rest') :
    left = right ∧ rest = rest' := by
  induction left generalizing right with
  | nil =>
    obtain rfl := List.length_eq_zero_iff.mp lengths.symm
    exact ⟨rfl, same⟩
  | cons first others ih =>
    cases right with
    | nil => cases lengths
    | cons first' others' =>
      simp only [List.flatMap_cons, List.append_assoc] at same
      obtain ⟨rfl, later⟩ := delimits _ _ _ _ (leftValid first List.mem_cons_self)
        (rightValid first' List.mem_cons_self) same
      obtain ⟨rfl, equal⟩ := ih (Nat.succ.inj lengths)
        (fun value member => leftValid value (List.mem_cons_of_mem _ member))
        (fun value member => rightValid value (List.mem_cons_of_mem _ member)) later
      exact ⟨rfl, equal⟩

theorem sequence_delimits (delimits : Delimits valid encode) :
    Delimits (fun values => Fits values.length ∧ ∀ value ∈ values, valid value)
      (sequence encode) := by
  intro left right rest rest' leftValid rightValid same
  obtain ⟨lengths, equal⟩ := length_delimits _ _ _ _ leftValid.1 rightValid.1 same
  exact flat_map_delimits delimits lengths leftValid.2 rightValid.2 equal
end Layouts

/-! The text of a UUID has a fixed size and gives the UUID back. -/

theorem hex_digit_injective : ∀ left < 16, ∀ right < 16,
    hexDigit left = hexDigit right → left = right := by decide

theorem hex_digit_ascii : ∀ digit < 16, (hexDigit digit).utf8Size = 1 := by decide

theorem hex_injective {left right : List UInt8} (same : hex left = hex right) : left = right := by
  induction left generalizing right with
  | nil =>
    cases right with
    | nil => rfl
    | cons _ _ => cases same
  | cons byte others ih =>
    cases right with
    | nil => cases same
    | cons byte' others' =>
      obtain ⟨high, later⟩ := List.cons.inj same
      obtain ⟨low, rest⟩ := List.cons.inj later
      have bounds := byte.toNat_lt
      have bounds' := byte'.toNat_lt
      have highs := hex_digit_injective _ (by omega) _ (by omega) high
      have lows := hex_digit_injective _ (by omega) _ (by omega) low
      have equal : byte = byte' := UInt8.toNat_inj.mp (by omega)
      rw [equal, ih rest]

theorem hex_ascii {bytes : List UInt8} {digit : Char} (member : digit ∈ hex bytes) :
    digit.utf8Size = 1 := by
  obtain ⟨byte, _, digits⟩ := List.mem_flatMap.mp member
  have bounds := byte.toNat_lt
  simp only [List.mem_cons, List.not_mem_nil, or_false] at digits
  rcases digits with rfl | rfl
  · exact hex_digit_ascii _ (by omega)
  · exact hex_digit_ascii _ (by omega)

theorem ascii_utf8_length {chars : List Char} (ascii : ∀ char ∈ chars, char.utf8Size = 1) :
    (chars.flatMap String.utf8EncodeChar).length = chars.length := by
  induction chars with
  | nil => rfl
  | cons char others ih =>
    have first := ascii char List.mem_cons_self
    have later := ih fun other member => ascii other (List.mem_cons_of_mem _ member)
    rw [List.flatMap_cons, List.length_append, String.length_utf8EncodeChar, first, later,
      List.length_cons, Nat.add_comm]

-- The groups of a UUID, one after another, are all of its bytes.
theorem slice_split (bytes : List UInt8) (start count : Nat) :
    (bytes.drop start).take count ++ bytes.drop (start + count) = bytes.drop start := by
  rw [← List.drop_drop, List.take_append_drop]

theorem slice_cancel {left right : List UInt8} (start count : Nat)
    (group : (left.drop start).take count = (right.drop start).take count)
    (later : left.drop (start + count) = right.drop (start + count)) :
    left.drop start = right.drop start := by
  rw [← slice_split left start count, ← slice_split right start count, group, later]

theorem uuid_text_injective {left right : Bytes 16} (same : uuidText left = uuidText right) :
    left = right := by
  have chars := String.ofList_injective same
  have sized : ∀ start count, (hex ((left.toList.drop start).take count)).length =
      (hex ((right.toList.drop start).take count)).length := by
    intro start count
    simp only [hex_length, List.length_take, List.length_drop, left.size_eq, right.size_eq]
  simp only [List.append_assoc, List.cons_append] at chars
  obtain ⟨first, chars⟩ := List.append_inj chars (sized 0 4)
  obtain ⟨second, chars⟩ := List.append_inj (List.cons.inj chars).2 (sized 4 2)
  obtain ⟨third, chars⟩ := List.append_inj (List.cons.inj chars).2 (sized 6 2)
  obtain ⟨fourth, chars⟩ := List.append_inj (List.cons.inj chars).2 (sized 8 2)
  have fifth := hex_injective (List.cons.inj chars).2
  have ended : left.toList.drop 16 = right.toList.drop 16 := by
    rw [List.drop_eq_nil_of_le (Nat.le_of_eq left.size_eq),
      List.drop_eq_nil_of_le (Nat.le_of_eq right.size_eq)]
  have bytes : left.toList.drop 0 = right.toList.drop 0 :=
    slice_cancel 0 4 (hex_injective first) <| slice_cancel 4 2 (hex_injective second) <|
      slice_cancel 6 2 (hex_injective third) <| slice_cancel 8 2 (hex_injective fourth) <|
        slice_cancel 10 6 fifth ended
  exact Bytes.ext bytes

theorem uuid_text_utf8_length (uuid : Bytes 16) : (utf8 (uuidText uuid)).length = 36 := by
  have ascii : ∀ char ∈ (uuidText uuid).toList, char.utf8Size = 1 := by
    intro char member
    simp only [uuidText, String.toList_ofList, List.mem_append, List.mem_cons] at member
    rcases member with (((digit | rfl | digit) | rfl | digit) | rfl | digit) | rfl | digit
    · exact hex_ascii digit
    · rfl
    · exact hex_ascii digit
    · rfl
    · exact hex_ascii digit
    · rfl
    · exact hex_ascii digit
    · rfl
    · exact hex_ascii digit
  rw [utf8, ascii_utf8_length ascii]
  simp only [uuidText, String.toList_ofList, List.length_append, List.length_cons, hex_length,
    List.length_take, List.length_drop, uuid.size_eq]
  omega

theorem uuid_text_delimits : DelimitsAll fun uuid : Bytes 16 => text (uuidText uuid) := by
  intro left right rest rest' _ _ same
  have fits : ∀ uuid : Bytes 16, Fits (utf8 (uuidText uuid)).length := by
    intro uuid
    rw [uuid_text_utf8_length, Fits]
    decide
  obtain ⟨texts, equal⟩ := text_delimits _ _ _ _ (fits left) (fits right) same
  exact ⟨uuid_text_injective texts, equal⟩
end Misaka.UniqueDecoding
