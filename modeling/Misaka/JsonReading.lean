import Misaka.JsonText
import Misaka.UniqueDecoding

/-!
Why a printed JSON document can be read back. A printer separates its values if,
whatever follows, equal texts come from equal values and leave equal rests. A
number goes on for as long as there are digits, so no digit may follow; every
other document shows by itself where it ends. A printer that separates its values
has a reader.
-/

namespace Misaka.JsonReading
open FileText JsonText

-- What stands after a value does not start with a digit.
def Ends (rest : List Char) : Prop := ∀ char ∈ rest.head?, char.isDigit = false

def Separates {Value : Type} (print : Value → Document) : Prop :=
  ∀ indent left right rest rest', Ends rest → Ends rest' →
    print left indent ++ rest = print right indent ++ rest' → left = right ∧ rest = rest'

theorem ends_cons {char : Char} {rest : List Char} (other : char.isDigit = false) :
    Ends (char :: rest) := by
  intro first found
  obtain rfl := Option.some.inj found
  exact other

theorem ends_nil : Ends [] := fun _ found => nomatch found

theorem ends_newline (indent : Nat) (rest : List Char) : Ends (newline indent ++ rest) :=
  ends_cons (by decide)

/-! Numbers. -/

theorem decimal_injective {left right : Nat} (same : decimal left = decimal right) :
    left = right := by
  have value := congrArg (fun digits => Nat.ofDigitChars 10 digits 0) same
  simpa only [decimal, Nat.ofDigitChars_toDigits (by decide : 1 < 10) (by decide : 10 ≤ 10)]
    using value

theorem digits_taken {digits rest : List Char} (all : ∀ char ∈ digits, char.isDigit = true)
    (ends : Ends rest) : (digits ++ rest).takeWhile Char.isDigit = digits := by
  rw [List.takeWhile_append_of_pos all]
  cases rest with
  | nil => simp
  | cons char rest =>
    have stop := ends char rfl
    simp [stop]

theorem number_separates : Separates number := by
  intro indent left right rest rest' ends ends' same
  have digits := congrArg (List.takeWhile Char.isDigit) same
  simp only [number] at digits same
  rw [digits_taken (fun _ member => decimal_digits member) ends,
    digits_taken (fun _ member => decimal_digits member) ends'] at digits
  obtain rfl := decimal_injective digits
  exact ⟨rfl, List.append_cancel_left same⟩

/-! Strings. -/

def hexValue (digit : Char) : Nat := if digit.isDigit then digit.toNat - 48 else digit.toNat - 87

-- One character of a string, with its escape taken off, and what follows it.
def unescape : List Char → Option (Char × List Char)
  | '\\' :: 'n' :: rest => some ('\n', rest)
  | '\\' :: 'r' :: rest => some ('\r', rest)
  | '\\' :: 't' :: rest => some ('\t', rest)
  | '\\' :: 'b' :: rest => some ('\x08', rest)
  | '\\' :: 'f' :: rest => some ('\x0c', rest)
  | '\\' :: 'u' :: _ :: _ :: high :: low :: rest =>
    some (Char.ofNat (16 * hexValue high + hexValue low), rest)
  | '\\' :: char :: rest => some (char, rest)
  | '"' :: _ => none
  | char :: rest => some (char, rest)
  | [] => none

theorem hex_value_digit : ∀ digit < 16, hexValue (Bincode.hexDigit digit) = digit := by decide

theorem unescape_escape (char : Char) (rest : List Char) :
    unescape (escape char ++ rest) = some (char, rest) := by
  unfold escape
  split
  · subst char
    rfl
  split
  · subst char
    rfl
  split
  · subst char
    rfl
  split
  · subst char
    rfl
  split
  · subst char
    rfl
  split
  · subst char
    rfl
  split
  · subst char
    rfl
  split
  · have high := hex_value_digit (char.toNat / 16) (by omega)
    have low := hex_value_digit (char.toNat % 16) (by omega)
    have whole : 16 * (char.toNat / 16) + char.toNat % 16 = char.toNat := by omega
    simp only [List.cons_append, List.nil_append, unescape, high, low, whole, Char.ofNat_toNat]
  · rename_i _ slash _ _ _ _ _ _
    simp [unescape, slash]

theorem escaped_separates {left right rest rest' : List Char}
    (same : left.flatMap escape ++ '"' :: rest = right.flatMap escape ++ '"' :: rest') :
    left = right ∧ rest = rest' := by
  have read := congrArg unescape same
  induction left generalizing right with
  | nil =>
    cases right with
    | nil => exact ⟨rfl, (List.cons.inj same).2⟩
    | cons char others =>
      rw [List.flatMap_cons, List.append_assoc, unescape_escape] at read
      cases read
  | cons char others ih =>
    cases right with
    | nil =>
      rw [List.flatMap_cons, List.append_assoc, unescape_escape] at read
      cases read
    | cons char' others' =>
      simp only [List.flatMap_cons, List.append_assoc, unescape_escape] at read
      obtain ⟨rfl, later⟩ := Prod.mk.inj (Option.some.inj read)
      obtain ⟨rfl, equal⟩ := ih later (congrArg unescape later)
      exact ⟨rfl, equal⟩

theorem string_separates : Separates string := by
  intro indent left right rest rest' _ _ same
  simp only [string, List.cons_append, List.append_assoc, List.nil_append] at same
  obtain ⟨chars, equal⟩ := escaped_separates (List.cons.inj same).2
  exact ⟨String.toList_inj.mp chars, equal⟩

/-! Fields, arrays and objects. -/
section Documents
variable {Value Other : Type} {print : Value → Document}

theorem field_separates (name : String) (separates : Separates print) :
    Separates fun value => field name (print value) := by
  intro indent left right rest rest' ends ends' same
  simp only [field, List.append_assoc] at same
  exact separates indent left right rest rest' ends ends'
    (List.append_cancel_left (List.append_cancel_left same))

theorem separates_map {view : Other → Value} (separates : Separates print)
    (injective : Function.Injective view) : Separates fun value => print (view value) := by
  intro indent left right rest rest' ends ends' same
  obtain ⟨equal, after⟩ := separates indent _ _ rest rest' ends ends' same
  exact ⟨injective equal, after⟩

-- The text of the items after the first.
def remaining (indent : Nat) : List Document → List Char
  | [] => []
  | item :: rest => ',' :: (newline indent ++ item indent ++ remaining indent rest)

theorem lines_cons (indent : Nat) (item : Document) (rest : List Document) :
    lines indent (item :: rest) = newline indent ++ item indent ++ remaining indent rest := by
  induction rest generalizing item with
  | nil => simp [lines, remaining]
  | cons next rest ih =>
    rw [lines, ih, remaining, List.append_assoc, List.append_assoc]
    exact List.cons_ne_nil next rest

theorem bracketed_cons (opening closing : Char) (indent : Nat) (item : Document)
    (rest : List Document) :
    bracketed opening closing (item :: rest) indent =
      opening :: (newline (indent + 1) ++ item (indent + 1) ++ remaining (indent + 1) rest ++
        newline indent ++ [closing]) := by
  simp only [bracketed, lines_cons]

theorem ends_remaining (indent outer : Nat) (items : List Document) (rest : List Char) :
    Ends (remaining indent items ++ (newline outer ++ rest)) := by
  cases items with
  | nil => exact ends_newline outer rest
  | cons item items => exact ends_cons (by decide)

variable {rest rest' : List Char}

theorem remaining_separates (separates : Separates print) (indent outer : Nat)
    {left right : List Value}
    (same : remaining indent (left.map print) ++ (newline outer ++ rest) =
      remaining indent (right.map print) ++ (newline outer ++ rest')) :
    left = right ∧ rest = rest' := by
  induction left generalizing right with
  | nil =>
    cases right with
    | nil => exact ⟨rfl, List.append_cancel_left same⟩
    | cons value others => cases (List.cons.inj same).1
  | cons value others ih =>
    cases right with
    | nil => cases (List.cons.inj same).1
    | cons value' others' =>
      simp only [List.map_cons, remaining, List.cons_append, List.append_assoc] at same
      have shorter := List.append_cancel_left (List.cons.inj same).2
      obtain ⟨rfl, later⟩ := separates indent value value' _ _
        (ends_remaining indent outer _ _) (ends_remaining indent outer _ _) shorter
      obtain ⟨rfl, equal⟩ := ih later
      exact ⟨rfl, equal⟩

theorem array_separates (separates : Separates print) :
    Separates fun values : List Value => array (values.map print) := by
  intro indent left right rest rest' _ _ same
  simp only [array] at same
  cases left with
  | nil =>
    cases right with
    | nil => exact ⟨rfl, (List.cons.inj (List.cons.inj same).2).2⟩
    | cons value others =>
      rw [List.map_cons, bracketed_cons] at same
      cases (List.cons.inj (List.cons.inj same).2).1
  | cons value others =>
    cases right with
    | nil =>
      rw [List.map_cons, bracketed_cons] at same
      cases (List.cons.inj (List.cons.inj same).2).1
    | cons value' others' =>
      simp only [List.map_cons, bracketed_cons, List.cons_append, List.append_assoc] at same
      have shorter := List.append_cancel_left (List.cons.inj same).2
      obtain ⟨rfl, later⟩ := separates (indent + 1) value value' _ _
        (ends_remaining _ indent _ _) (ends_remaining _ indent _ _) shorter
      obtain ⟨rfl, equal⟩ := remaining_separates separates _ _ later
      exact ⟨rfl, (List.cons.inj equal).2⟩

theorem byte_array_separates : Separates byteArray := by
  have bytes : Separates fun byte : UInt8 => number byte.toNat :=
    separates_map number_separates fun _ _ same => UInt8.toNat_inj.mp same
  exact array_separates bytes

-- The fields after the first give the values back.
def SeparatesFields (fields : Value → List Document) : Prop :=
  ∀ indent outer left right rest rest',
    remaining indent (fields left) ++ (newline outer ++ rest) =
      remaining indent (fields right) ++ (newline outer ++ rest') → left = right ∧ rest = rest'

theorem fields_nil : SeparatesFields fun _ : Unit => [] := by
  intro indent outer left right rest rest' same
  exact ⟨rfl, List.append_cancel_left same⟩

variable {fields : Other → List Document}

theorem fields_cons (name : String) (separates : Separates print)
    (others : SeparatesFields fields) :
    SeparatesFields fun pair : Value × Other => field name (print pair.1) :: fields pair.2 := by
  rintro indent outer ⟨left, later⟩ ⟨right, later'⟩ rest rest' same
  simp only [remaining, List.cons_append, List.append_assoc] at same
  have shorter := List.append_cancel_left (List.cons.inj same).2
  obtain ⟨rfl, following⟩ := field_separates name separates indent left right _ _
    (ends_remaining _ _ _ _) (ends_remaining _ _ _ _) shorter
  obtain ⟨rfl, equal⟩ := others indent outer later later' rest rest' following
  exact ⟨rfl, equal⟩

theorem field_name {name other : String} {value value' : Document} {indent : Nat}
    (same : field name value indent ++ rest = field other value' indent ++ rest') :
    name = other := by
  simp only [field, List.append_assoc] at same
  exact (string_separates indent name other _ _ (ends_cons (by decide)) (ends_cons (by decide))
    same).1

-- A field that is not there is not taken for the one after it.
theorem missing_field {name : String} {items others : List Document} {value : Document}
    {indent outer : Nat}
    (apart : ∀ item ∈ items.head?, ∃ other content, other ≠ name ∧ item = field other content)
    (same : remaining indent items ++ (newline outer ++ rest) =
      remaining indent (field name value :: others) ++ (newline outer ++ rest')) : False := by
  cases items with
  | nil => cases (List.cons.inj same).1
  | cons item items =>
    obtain ⟨other, content, different, rfl⟩ := apart item rfl
    simp only [remaining, List.cons_append, List.append_assoc] at same
    exact different (field_name (List.append_cancel_left (List.cons.inj same).2))

theorem fields_optional (name : String) (separates : Separates print)
    (others : SeparatesFields fields) (apart : ∀ value, ∀ item ∈ (fields value).head?,
      ∃ other content, other ≠ name ∧ item = field other content) :
    SeparatesFields fun pair : Option Value × Other =>
      (pair.1.map fun value => field name (print value)).toList ++ fields pair.2 := by
  rintro indent outer ⟨left, later⟩ ⟨right, later'⟩ rest rest' same
  cases left with
  | none =>
    cases right with
    | none =>
      obtain ⟨rfl, equal⟩ := others indent outer later later' rest rest' same
      exact ⟨rfl, equal⟩
    | some value => exact (missing_field (apart later) same).elim
  | some value =>
    cases right with
    | none => exact (missing_field (apart later') same.symm).elim
    | some value' =>
      obtain ⟨equal, after⟩ := fields_cons name separates others indent outer (value, later)
        (value', later') rest rest' same
      obtain ⟨rfl, rfl⟩ := Prod.mk.inj equal
      exact ⟨rfl, after⟩

theorem object_separates (name : String) (separates : Separates print)
    (others : SeparatesFields fields) :
    Separates fun pair : Value × Other => object (field name (print pair.1) :: fields pair.2) := by
  rintro indent ⟨left, later⟩ ⟨right, later'⟩ rest rest' _ _ same
  simp only [object, bracketed_cons, List.cons_append, List.append_assoc] at same
  have shorter := List.append_cancel_left (List.cons.inj same).2
  obtain ⟨rfl, following⟩ := field_separates name separates (indent + 1) left right _ _
    (ends_remaining _ _ _ _) (ends_remaining _ _ _ _) shorter
  obtain ⟨rfl, equal⟩ := others (indent + 1) indent later later' _ _ following
  exact ⟨rfl, (List.cons.inj equal).2⟩
end Documents

/-! The reader of a printer that separates its values. -/
section Readers
variable {Value : Type} (print : Value → Document)

def jsonText (value : Value) : String := String.ofList (print value 0)

open Classical in
noncomputable def readJson (text : List Char) : Except String Value :=
  if known : ∃ value, print value 0 = text then .ok known.choose
  else .error "not a document"

variable {print}

theorem read_json (separates : Separates print) (value : Value) :
    readJson print (jsonText print value).toList = .ok value := by
  have known : ∃ other, print other 0 = (jsonText print value).toList :=
    ⟨value, String.toList_ofList.symm⟩
  have chosen : print known.choose 0 ++ [] = print value 0 ++ [] := by
    rw [known.choose_spec, jsonText, String.toList_ofList]
  rw [readJson, dif_pos known]
  exact congrArg Except.ok (separates 0 _ _ _ _ ends_nil ends_nil chosen).1

theorem read_json_text {text : List Char} {value : Value} (read : readJson print text = .ok value) :
    print value 0 = text := by
  unfold readJson at read
  split at read
  · rename_i known
    rw [← Except.ok.inj read]
    exact known.choose_spec
  · cases read
end Readers
end Misaka.JsonReading
