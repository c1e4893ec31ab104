import Misaka.FileText

/-!
JSON documents as serde_json prints them, one item to a line, and a scanner that
follows a text through its brackets and strings. A text that the scanner leaves
inside a bracket is no JSON document; this is what becomes of an array whose text
was cut short.
-/

namespace Misaka.JsonText
open FileText

/-! Printing. A document is the text it has at a level of indentation. -/

abbrev Document := Nat → List Char

def newline (indent : Nat) : List Char := '\n' :: List.replicate (2 * indent) ' '

def number (value : Nat) : Document := fun _ => decimal value

def escape (char : Char) : List Char :=
  if char = '"' then ['\\', '"']
  else if char = '\\' then ['\\', '\\']
  else if char = '\n' then ['\\', 'n']
  else if char = '\r' then ['\\', 'r']
  else if char = '\t' then ['\\', 't']
  else if char = '\x08' then ['\\', 'b']
  else if char = '\x0c' then ['\\', 'f']
  else if char.toNat < 32 then
    ['\\', 'u', '0', '0', Bincode.hexDigit (char.toNat / 16), Bincode.hexDigit (char.toNat % 16)]
  else [char]

def string (value : String) : Document := fun _ => '"' :: (value.toList.flatMap escape ++ ['"'])

def lines (indent : Nat) : List Document → List Char
  | [] => []
  | [item] => newline indent ++ item indent
  | item :: rest => newline indent ++ item indent ++ ',' :: lines indent rest

def bracketed (opening closing : Char) (items : List Document) : Document := fun indent =>
  match items with
  | [] => [opening, closing]
  | _ => opening :: (lines (indent + 1) items ++ newline indent ++ [closing])

def array (items : List Document) : Document := bracketed '[' ']' items

def byteArray (bytes : List UInt8) : Document := array (bytes.map fun byte => number byte.toNat)

def field (name : String) (value : Document) : Document := fun indent =>
  string name indent ++ ": ".toList ++ value indent

def object (fields : List Document) : Document := bracketed '\x7b' '\x7d' fields

example : array [object [field "a" (number 1)]] 0 =
    "[\n  \x7b\n    \"a\": 1\n  \x7d\n]".toList := by decide

/-! Scanning. -/
section Scanning

inductive Mode where
  | plain | quoted | escaped
deriving DecidableEq

-- How many brackets are open, and whether a string is.
abbrev Cursor := Nat × Mode

def scanChar : Cursor → Char → Cursor
  | (depth, .plain), char =>
    if char = '[' ∨ char = '\x7b' then (depth + 1, .plain)
    else if char = ']' ∨ char = '\x7d' then (depth - 1, .plain)
    else if char = '"' then (depth, .quoted)
    else (depth, .plain)
  | (depth, .quoted), char =>
    if char = '"' then (depth, .plain)
    else if char = '\\' then (depth, .escaped)
    else (depth, .quoted)
  | (depth, .escaped), _ => (depth, .quoted)

def scan (cursor : Cursor) (text : List Char) : Cursor := text.foldl scanChar cursor

-- The fewest open brackets on the way.
def floor : Cursor → List Char → Nat
  | cursor, [] => cursor.1
  | cursor, char :: rest => min cursor.1 (floor (scanChar cursor char) rest)

/-- What every JSON document is. -/
def Complete (text : List Char) : Prop :=
  scan (0, .plain) text = (0, .plain) ∧ ∃ char ∈ text, isWhitespace char = false

-- Outside strings the text closes what it opens and nothing else.
def Encloses (text : List Char) : Prop :=
  ∀ depth, scan (depth, .plain) text = (depth, .plain) ∧ depth ≤ floor (depth, .plain) text

variable {cursor : Cursor} {left right text part : List Char} {char : Char}

theorem scan_append : scan cursor (left ++ right) = scan (scan cursor left) right :=
  List.foldl_append

theorem floor_append :
    floor cursor (left ++ right) = min (floor cursor left) (floor (scan cursor left) right) := by
  induction left generalizing cursor with
  | nil =>
    cases right with
    | nil | cons char rest => simp [floor, scan]
  | cons char rest ih =>
    simp only [List.cons_append, floor, ih, min_assoc]
    rfl

theorem floor_le_scan (within : part <+: text) : floor cursor text ≤ (scan cursor part).1 := by
  induction part generalizing cursor text with
  | nil =>
    cases text with
    | nil => exact Nat.le_refl _
    | cons char rest => exact Nat.min_le_left _ _
  | cons char rest ih =>
    obtain ⟨after, rfl⟩ := within
    exact Nat.le_trans (Nat.min_le_right _ _) (ih (List.prefix_append rest after))

theorem encloses_append (first : Encloses left) (second : Encloses right) :
    Encloses (left ++ right) := by
  intro depth
  constructor
  · rw [scan_append, (first depth).1, (second depth).1]
  · rw [floor_append, (first depth).1]
    exact Nat.le_min.mpr ⟨(first depth).2, (second depth).2⟩

-- A character that means nothing outside strings.
def Inert (char : Char) : Prop := ∀ depth, scanChar (depth, .plain) char = (depth, .plain)

theorem encloses_inert (inert : ∀ char ∈ text, Inert char) : Encloses text := by
  intro depth
  induction text with
  | nil => exact ⟨rfl, Nat.le_refl _⟩
  | cons char rest ih =>
    have first := inert char List.mem_cons_self depth
    obtain ⟨scanned, bounded⟩ := ih fun other member => inert other (List.mem_cons_of_mem _ member)
    constructor
    · rw [scan, List.foldl_cons, first]
      exact scanned
    · rw [floor, first]
      exact Nat.le_min.mpr ⟨Nat.le_refl _, bounded⟩

theorem newline_encloses (indent : Nat) : Encloses (newline indent) := by
  apply encloses_inert
  intro char member depth
  rcases List.mem_cons.mp member with rfl | member
  · rfl
  · rw [List.eq_of_mem_replicate member]
    rfl

theorem digit_inert (digit : char.isDigit = true) : Inert char := by
  intro depth
  have bounds : 48 ≤ char.toNat ∧ char.toNat ≤ 57 := by
    simp only [Char.isDigit, Bool.and_eq_true, decide_eq_true_eq] at digit
    exact digit
  have different : ∀ other : Char, other.toNat < 48 ∨ 57 < other.toNat → char ≠ other := by
    rintro other outside rfl
    omega
  simp only [scanChar]
  rw [if_neg, if_neg, if_neg]
  · exact different '"' (by decide)
  · exact not_or.mpr ⟨different ']' (by decide), different '\x7d' (by decide)⟩
  · exact not_or.mpr ⟨different '[' (by decide), different '\x7b' (by decide)⟩

theorem number_encloses (value indent : Nat) : Encloses (number value indent) :=
  encloses_inert fun _ member => digit_inert (decimal_digits member)

/-- An escaped character leaves the scanner inside the string. -/
theorem escape_quoted (depth : Nat) (char : Char) :
    scan (depth, .quoted) (escape char) = (depth, .quoted) ∧
      floor (depth, .quoted) (escape char) = depth := by
  have digit : ∀ value < 16, Bincode.hexDigit value ≠ '"' ∧ Bincode.hexDigit value ≠ '\\' := by
    decide
  unfold escape
  split
  · simp [scan, floor, scanChar]
  split
  · simp [scan, floor, scanChar]
  split
  · simp [scan, floor, scanChar]
  split
  · simp [scan, floor, scanChar]
  split
  · simp [scan, floor, scanChar]
  split
  · simp [scan, floor, scanChar]
  split
  · simp [scan, floor, scanChar]
  split
  · have high := digit (char.toNat / 16) (by omega)
    have low := digit (char.toNat % 16) (by omega)
    simp [scan, floor, scanChar, high, low]
  · simp [scan, floor, scanChar, *]

theorem string_encloses (value : String) (indent : Nat) : Encloses (string value indent) := by
  intro depth
  have inside : ∀ chars : List Char,
      scan (depth, .quoted) (chars.flatMap escape ++ ['"']) = (depth, .plain) ∧
        floor (depth, .quoted) (chars.flatMap escape ++ ['"']) = depth := by
    intro chars
    induction chars with
    | nil => simp [scan, floor, scanChar]
    | cons char rest ih =>
      obtain ⟨stays, level⟩ := escape_quoted depth char
      rw [List.flatMap_cons, List.append_assoc, scan_append, floor_append, stays, level, ih.1, ih.2]
      exact ⟨rfl, Nat.min_self _⟩
  obtain ⟨leaves, level⟩ := inside value.toList
  constructor
  · exact leaves
  · exact Nat.le_min.mpr ⟨Nat.le_refl _, Nat.le_of_eq level.symm⟩

variable {items : List Document} {indent : Nat}

theorem lines_enclose (each : ∀ item ∈ items, ∀ indent, Encloses (item indent)) :
    Encloses (lines indent items) := by
  have comma : Encloses [','] := encloses_inert fun char member depth => by
    rw [List.mem_singleton.mp member]
    rfl
  induction items with
  | nil => exact fun depth => ⟨rfl, Nat.le_refl _⟩
  | cons item rest ih =>
    have first := encloses_append (newline_encloses indent)
      (each item List.mem_cons_self indent)
    have others := ih fun other member => each other (List.mem_cons_of_mem _ member)
    cases rest with
    | nil => exact first
    | cons second rest => exact encloses_append first (encloses_append comma others)

theorem bracketed_body (opening closing : Char) (items : List Document)
    (each : ∀ item ∈ items, ∀ indent, Encloses (item indent)) (indent : Nat) :
    ∃ body, bracketed opening closing items indent = opening :: (body ++ [closing]) ∧
      Encloses body := by
  cases items with
  | nil => exact ⟨[], rfl, fun depth => ⟨rfl, Nat.le_refl _⟩⟩
  | cons item rest =>
    exact ⟨_, rfl, encloses_append (lines_enclose each) (newline_encloses indent)⟩

theorem bracketed_encloses {opening closing : Char}
    (opens : ∀ depth, scanChar (depth, .plain) opening = (depth + 1, .plain))
    (closes : ∀ depth, scanChar (depth, .plain) closing = (depth - 1, .plain))
    (each : ∀ item ∈ items, ∀ indent, Encloses (item indent)) :
    Encloses (bracketed opening closing items indent) := by
  obtain ⟨body, printed, within⟩ := bracketed_body opening closing items each indent
  rw [printed]
  intro depth
  obtain ⟨scanned, bounded⟩ := within (depth + 1)
  constructor
  · rw [scan, List.foldl_cons, opens]
    change scan _ (body ++ [closing]) = _
    rw [scan_append, scanned]
    exact closes (depth + 1)
  · rw [floor, opens, floor_append, scanned]
    have last : floor (depth + 1, .plain) [closing] = depth := by
      simp only [floor, closes]
      omega
    omega

theorem array_encloses (each : ∀ item ∈ items, ∀ indent, Encloses (item indent)) :
    Encloses (array items indent) :=
  bracketed_encloses (fun _ => rfl) (fun _ => rfl) each

theorem byte_array_encloses (bytes : List UInt8) (indent : Nat) :
    Encloses (byteArray bytes indent) := by
  apply array_encloses
  intro item member
  obtain ⟨byte, _, rfl⟩ := List.mem_map.mp member
  exact number_encloses byte.toNat

theorem object_encloses (each : ∀ item ∈ items, ∀ indent, Encloses (item indent)) :
    Encloses (object items indent) :=
  bracketed_encloses (fun _ => rfl) (fun _ => rfl) each

theorem field_encloses (name : String) {value : Document} (encloses : ∀ indent, Encloses (value indent))
    (indent : Nat) : Encloses (field name value indent) := by
  have colon : Encloses ": ".toList := encloses_inert fun char member depth => by
    have listed : char = ':' ∨ char = ' ' := by simpa using member
    rcases listed with rfl | rfl <;> rfl
  exact encloses_append (encloses_append (string_encloses name indent) colon) (encloses indent)

theorem array_complete (each : ∀ item ∈ items, ∀ indent, Encloses (item indent)) :
    Complete (array items indent) := by
  obtain ⟨body, printed, _⟩ := bracketed_body '[' ']' items each indent
  refine ⟨(array_encloses each 0).1, '[', ?_, by decide⟩
  rw [array, printed]
  exact List.mem_cons_self

/-- No part of an array's text is a document, short of the whole. -/
theorem array_cut_incomplete (each : ∀ item ∈ items, ∀ indent, Encloses (item indent))
    (cut : part <+: array items indent) (short : part ≠ array items indent) : ¬ Complete part := by
  obtain ⟨body, printed, within⟩ := bracketed_body '[' ']' items each indent
  rw [array, printed] at cut short
  rintro ⟨closed, char, member, _⟩
  cases part with
  | nil => cases member
  | cons first rest =>
    obtain ⟨rfl, inside⟩ := List.cons_prefix_cons.mp cut
    have left : rest <+: body := by
      rcases List.prefix_concat_iff.mp inside with whole | left
      · exact absurd (congrArg _ whole) short
      · exact left
    have deep : 1 ≤ (scan (1, .plain) rest).1 :=
      Nat.le_trans (within 1).2 (floor_le_scan left)
    have shallow : (scan (1, .plain) rest).1 = 0 := congrArg Prod.fst closed
    omega

/-- A reader of whole documents reads no file that an array's text was cut down to. -/
theorem array_cut_unread {Value : Type} {decode : List Char → Except String Value}
    (documents : ∀ text value, decode text = .ok value → Complete text)
    (each : ∀ item ∈ items, ∀ indent, Encloses (item indent)) {bytes : List UInt8}
    (cut : bytes <+: Bincode.utf8 (String.ofList (array items indent)))
    (short : bytes ≠ Bincode.utf8 (String.ofList (array items indent)))
    (read : readText bytes = .ok text) (value : Value) : decode text ≠ .ok value := by
  intro accepted
  obtain ⟨part, shorter⟩ := read_text_cut cut short read
  rw [String.toList_ofList] at part shorter
  exact array_cut_incomplete each part shorter (documents text value accepted)
end Scanning
end Misaka.JsonText
