import Misaka.Bincode

/-!
Small text files: `read_to_string`, what `to_string` writes for an unsigned
number, and what `trim` and `parse::<u64>` make of a text.
-/

namespace Misaka.FileText

def readText (bytes : List UInt8) : Except String (List Char) :=
  match bytes.toByteArray.utf8Decode? with
  | some chars => .ok chars.toList
  | none => .error "stream did not contain valid UTF-8"

def decimal (value : Nat) : List Char := Nat.toDigits 10 value

-- `char::is_whitespace`, the Unicode property White_Space.
def isWhitespace (char : Char) : Bool :=
  let code := char.toNat
  (9 ≤ code && code ≤ 13) || code == 0x20 || code == 0x85 || code == 0xa0 || code == 0x1680 ||
    (0x2000 ≤ code && code ≤ 0x200a) || code == 0x2028 || code == 0x2029 || code == 0x202f ||
    code == 0x205f || code == 0x3000

def trim (text : List Char) : List Char :=
  ((text.dropWhile isWhitespace).reverse.dropWhile isWhitespace).reverse

-- One leading plus sign is allowed; no digits, other characters and overflow are errors.
def parseU64 (text : List Char) : Option UInt64 :=
  let digits := match text with
    | '+' :: rest => rest
    | _ => text
  let value := Nat.ofDigitChars 10 digits 0
  if digits ≠ [] ∧ (∀ char ∈ digits, char.isDigit) ∧ value < 2 ^ 64 then some (UInt64.ofNat value)
  else none

theorem read_text_utf8 (text : String) : readText (Bincode.utf8 text) = .ok text.toList := by
  have bytes : (Bincode.utf8 text).toByteArray = text.toList.utf8Encode := rfl
  rw [readText, bytes, List.utf8Decode?_utf8Encode]

variable {bytes : List UInt8} {chars : List Char}

/-- Bytes that are text are the encoding of that text. -/
theorem read_text_bytes (read : readText bytes = .ok chars) :
    bytes.toByteArray = chars.utf8Encode := by
  unfold readText at read
  split at read
  · rename_i decoded found
    obtain ⟨source, encoded⟩ := ByteArray.isSome_utf8Decode?_iff.mp (Option.isSome_of_eq_some found)
    rw [encoded, List.utf8Decode?_utf8Encode] at found
    obtain rfl := Option.some.inj found
    obtain rfl := Except.ok.inj read
    exact encoded
  · cases read

theorem utf8_encode_cut {part whole : List Char} {rest : ByteArray}
    (same : part.utf8Encode ++ rest = whole.utf8Encode) : part <+: whole := by
  induction part generalizing whole with
  | nil => exact List.nil_prefix
  | cons first others ih =>
    rw [List.utf8Encode_cons, ByteArray.append_assoc] at same
    have starts : whole.utf8Encode.utf8DecodeChar? 0 = some first := by
      rw [← same]
      exact List.utf8DecodeChar?_utf8Encode_singleton_append
    cases whole with
    | nil => cases starts
    | cons char remaining =>
      have split : (char :: remaining).utf8Encode = [char].utf8Encode ++ remaining.utf8Encode :=
        List.utf8Encode_cons
      rw [split] at same starts
      rw [List.utf8DecodeChar?_utf8Encode_singleton_append] at starts
      obtain rfl := Option.some.inj starts
      exact List.cons_prefix_cons.mpr ⟨rfl, ih ((ByteArray.append_right_inj _).mp same)⟩

/-- A text file that was cut short is no text, or a text that was cut short. -/
theorem read_text_cut {text : String} (cut : bytes <+: Bincode.utf8 text)
    (short : bytes ≠ Bincode.utf8 text) (read : readText bytes = .ok chars) :
    chars <+: text.toList ∧ chars ≠ text.toList := by
  have encoded := read_text_bytes read
  constructor
  · obtain ⟨rest, whole⟩ := cut
    have appended : chars.utf8Encode ++ rest.toByteArray = text.toList.utf8Encode := by
      rw [← encoded, ← List.toByteArray_append, whole]
      rfl
    exact utf8_encode_cut appended
  · rintro rfl
    exact short (List.toByteArray_inj.mp encoded)

variable {char : Char}

theorem decimal_digits {value : Nat} (member : char ∈ decimal value) :
    char.isDigit = true :=
  Nat.isDigit_of_mem_toDigits (by decide) (by decide) member

theorem digit_not_whitespace (digit : char.isDigit = true) :
    isWhitespace char = false := by
  simp only [Char.isDigit, Bool.and_eq_true, decide_eq_true_eq] at digit
  have low : 48 ≤ char.toNat := digit.1
  have high : char.toNat ≤ 57 := digit.2
  simp only [isWhitespace, Bool.or_eq_false_iff, Bool.and_eq_false_iff, decide_eq_false_iff_not,
    beq_eq_false_iff_ne]
  omega

theorem trim_edges {before solid after : List Char} (nonempty : solid ≠ [])
    (spaced : ∀ char ∈ before ++ after, isWhitespace char = true)
    (starts : ∀ char ∈ solid.head?, isWhitespace char = false)
    (ends : ∀ char ∈ solid.getLast?, isWhitespace char = false) :
    trim (before ++ solid ++ after) = solid := by
  have skips : ∀ spaces rest : List Char, (∀ char ∈ spaces, isWhitespace char = true) →
      (∀ char ∈ rest.head?, isWhitespace char = false) →
      (spaces ++ rest).dropWhile isWhitespace = rest := by
    intro spaces rest spaced starts
    rw [List.dropWhile_append_of_pos spaced]
    cases rest with
    | nil => rfl
    | cons first rest => exact List.dropWhile_cons_of_neg (by simp [starts first rfl])
  have front := skips before (solid ++ after) (fun char member => spaced char (by simp [member]))
    (by rwa [List.head?_append_of_ne_nil _ nonempty])
  have back := skips after.reverse solid.reverse
    (fun char member => spaced char (by simp_all)) (by simpa using ends)
  rw [trim, List.append_assoc, front, List.reverse_append, back, List.reverse_reverse]

variable {text : List Char}

theorem trim_solid (solid : ∀ char ∈ text, isWhitespace char = false) :
    trim text = text := by
  by_cases empty : text = []
  · rw [empty]
    rfl
  · have whole := @trim_edges [] text [] empty (by simp)
      (fun char member => solid char (List.mem_of_mem_head? member))
      (fun char member => solid char (List.mem_of_mem_getLast? member))
    simpa using whole

theorem trim_digits (digits : ∀ char ∈ text, char.isDigit = true) :
    trim text = text :=
  trim_solid fun char member => digit_not_whitespace (digits char member)

theorem hex_solid (member : char ∈ Bincode.hex bytes) :
    isWhitespace char = false := by
  have digit : ∀ value < 16, isWhitespace (Bincode.hexDigit value) = false := by decide
  simp only [Bincode.hex, List.mem_flatMap, List.mem_cons, List.not_mem_nil, or_false] at member
  obtain ⟨byte, _, rfl | rfl⟩ := member
  · apply digit
    have bound := byte.toNat_lt
    omega
  · apply digit
    omega

theorem trim_uuid (uuid : Bincode.Bytes 16) :
    trim (Bincode.uuidText uuid).toList = (Bincode.uuidText uuid).toList := by
  apply trim_solid
  intro char member
  simp only [Bincode.uuidText, String.toList_ofList, List.mem_append, List.mem_cons] at member
  have dash : isWhitespace '-' = false := by decide
  rcases member with ((((hex | rfl | hex) | rfl | hex) | rfl | hex) | rfl | hex)
  all_goals first | exact dash | exact hex_solid hex

theorem parse_unsigned (unsigned : text.head? ≠ some '+') :
    parseU64 text =
      if text ≠ [] ∧ (∀ char ∈ text, char.isDigit) ∧ Nat.ofDigitChars 10 text 0 < 2 ^ 64
      then some (UInt64.ofNat (Nat.ofDigitChars 10 text 0)) else none := by
  have other : ∀ rest, text = '+' :: rest → False := by
    rintro rest rfl
    exact unsigned rfl
  simp only [parseU64]

theorem digits_unsigned (digits : ∀ char ∈ text, char.isDigit = true) :
    text.head? ≠ some '+' := by
  intro plus
  cases digits '+' (List.mem_of_mem_head? plus)

/-- What was written is read back. -/
theorem parse_decimal (value : UInt64) : parseU64 (trim (decimal value.toNat)) = some value := by
  have digits : ∀ char ∈ decimal value.toNat, char.isDigit = true := fun _ => decimal_digits
  have number : Nat.ofDigitChars 10 (decimal value.toNat) 0 = value.toNat :=
    Nat.ofDigitChars_ten_toDigits
  rw [trim_digits digits, parse_unsigned (digits_unsigned digits), number,
    if_pos ⟨Nat.toDigits_ne_nil, digits, value.toNat_lt⟩, UInt64.ofNat_toNat]

theorem parse_nothing : parseU64 (trim []) = none := by decide

example : parseU64 (trim " 42\n".toList) = some 42 := by decide
end Misaka.FileText
