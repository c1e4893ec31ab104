import Mathlib

/-!
Files that several programs use at once. A directory entry leads from a path to
a file, and the file has the content: whoever opened it keeps the file when the
path is removed, renamed or made anew. Creating, renaming and removing happen at
once; reading, writing and copying a file take any number of pieces, and what is
read or overwritten is what is there at that moment.
-/

namespace Misaka.SharedFiles
variable {Path Byte : Type} {path source target : Path}

/-- Every file that a path leads to has been made, and no two paths lead to one. -/
structure Files (Path Byte : Type) where
  entry : Path → Option Nat
  content : Nat → List Byte
  fresh : Nat
  known : ∀ path file, entry path = some file → file < fresh
  single : ∀ left right file, entry left = some file → entry right = some file → left = right

section Operations
variable [DecidableEq Path]

def Files.put (files : Files Path Byte) (file : Nat) (bytes : List Byte) : Files Path Byte :=
  { files with content := Function.update files.content file bytes }

def Files.remove (files : Files Path Byte) (path : Path) : Files Path Byte where
  entry := Function.update files.entry path none
  content := files.content
  fresh := files.fresh
  known := by
    intro other file found
    by_cases same : other = path
    · rw [same, Function.update_self] at found
      cases found
    · rw [Function.update_of_ne same] at found
      exact files.known other file found
  single := by
    intro left right file first second
    by_cases same : left = path
    · rw [same, Function.update_self] at first
      cases first
    · by_cases equal : right = path
      · rw [equal, Function.update_self] at second
        cases second
      · rw [Function.update_of_ne same] at first
        rw [Function.update_of_ne equal] at second
        exact files.single left right file first second

/-- The path leads to a file that no other path leads to. -/
def Files.link (files : Files Path Byte) (path : Path) (file : Nat) (made : file < files.fresh)
    (alone : ∀ other, files.entry other = some file → other = path) : Files Path Byte where
  entry := Function.update files.entry path (some file)
  content := files.content
  fresh := files.fresh
  known := by
    intro other found leads
    by_cases same : other = path
    · rw [same, Function.update_self, Option.some.injEq] at leads
      rw [← leads]
      exact made
    · rw [Function.update_of_ne same] at leads
      exact files.known other found leads
  single := by
    intro left right found first second
    by_cases same : left = path
    · by_cases equal : right = path
      · rw [same, equal]
      · rw [same, Function.update_self, Option.some.injEq] at first
        rw [Function.update_of_ne equal, ← first] at second
        exact same.trans (alone right second).symm
    · rw [Function.update_of_ne same] at first
      by_cases equal : right = path
      · rw [equal, Function.update_self, Option.some.injEq] at second
        rw [← second] at first
        exact (alone left first).trans equal.symm
      · rw [Function.update_of_ne equal] at second
        exact files.single left right found first second

def Files.grow (files : Files Path Byte) : Files Path Byte :=
  { files with
    content := Function.update files.content files.fresh []
    fresh := files.fresh + 1
    known := fun path file found => (files.known path file found).trans (Nat.lt_succ_self _) }

def Files.make (files : Files Path Byte) (path : Path) : Files Path Byte :=
  files.grow.link path files.fresh (Nat.lt_succ_self _) (by
    intro other found
    exact absurd (files.known other files.fresh found) (Nat.lt_irrefl _))

/-- A file that is there is emptied. -/
def Files.create (files : Files Path Byte) (path : Path) : Nat × Files Path Byte :=
  match files.entry path with
  | some file => (file, files.put file [])
  | none => (files.fresh, files.make path)

def Files.move (files : Files Path Byte) (source target : Path) (file : Nat)
    (found : files.entry source = some file) : Files Path Byte :=
  (files.remove source).link target file (files.known source file found) (by
    intro other leads
    change Function.update files.entry source none other = some file at leads
    by_cases same : other = source
    · rw [same, Function.update_self] at leads
      cases leads
    · rw [Function.update_of_ne same] at leads
      exact absurd (files.single other source file leads found) same)

def Files.rename (files : Files Path Byte) (source target : Path) : Files Path Byte :=
  match found : files.entry source with
  | some file => files.move source target file found
  | none => files

variable [Inhabited Byte]

def resized (content : List Byte) (size : Nat) : List Byte :=
  content.take size ++ List.replicate (size - content.length) default

def overwritten (content : List Byte) (position : Nat) (bytes : List Byte) : List Byte :=
  resized content position ++ bytes ++ content.drop (position + bytes.length)
end Operations

/-! What stays. -/
section Keeping
variable [DecidableEq Path]

/-- The path leads where it led, and what it leads to has the same content. -/
structure Kept (path : Path) (before after : Files Path Byte) : Prop where
  entry : after.entry path = before.entry path
  content : ∀ file, before.entry path = some file → after.content file = before.content file

variable {other : Path} {files : Files Path Byte} {file : Nat}
variable {bytes : List Byte}

omit [DecidableEq Path] in
theorem kept_refl : Kept path files files := ⟨rfl, fun _ _ => rfl⟩

omit [DecidableEq Path] in
theorem kept_trans {middle after : Files Path Byte} (first : Kept path files middle)
    (second : Kept path middle after) : Kept path files after := by
  constructor
  · exact second.entry.trans first.entry
  · intro file leads
    exact (second.content file (first.entry.trans leads)).trans (first.content file leads)

omit [DecidableEq Path] in
theorem put_kept (elsewhere : files.entry path ≠ some file) :
    Kept path files (files.put file bytes) := by
  constructor
  · rfl
  · intro found leads
    apply Function.update_of_ne
    intro same
    exact elsewhere (same ▸ leads)

theorem remove_kept (different : path ≠ other) : Kept path files (files.remove other) := by
  constructor
  · exact Function.update_of_ne different _ _
  · intro _ _
    rfl

theorem create_kept (different : path ≠ other) : Kept path files (files.create other).2 := by
  unfold Files.create
  cases found : files.entry other with
  | some file =>
    apply put_kept
    intro leads
    exact different (files.single path other file leads found)
  | none =>
    constructor
    · exact Function.update_of_ne different _ _
    · intro file leads
      apply Function.update_of_ne
      exact Nat.ne_of_lt (files.known path file leads)

theorem rename_found (found : files.entry source = some file) :
    (files.rename source target).entry target = some file ∧
      (files.rename source target).content = files.content := by
  unfold Files.rename
  split
  · next other leads =>
      rw [found, Option.some.injEq] at leads
      subst leads
      exact ⟨Function.update_self _ _ _, rfl⟩
  · next missing =>
      rw [found] at missing
      cases missing

theorem create_entry : (files.create path).2.entry path = some (files.create path).1 := by
  unfold Files.create
  cases found : files.entry path with
  | some file => exact found
  | none => exact Function.update_self _ _ _

theorem create_empty : (files.create path).2.content (files.create path).1 = [] := by
  unfold Files.create
  cases found : files.entry path with
  | some file | none => exact Function.update_self _ _ _
end Keeping

/-! Reading, writing and copying in pieces. -/
section Pieces
variable [DecidableEq Path]

inductive Work (Byte : Type) where
  | idle
  | reading (file : Nat) (seen : List Byte)
  | opened (file : Nat)
  | copying (source target : Nat) (seen left : List Byte)
  | writing (file : Nat) (left : List Byte)

/-- Reading stops where a read gives nothing. -/
inductive ReadPiece (files : Files Path Byte) (path : Path) :
    Work Byte → Work Byte ⊕ Option (List Byte) → Prop where
  | missing (absent : files.entry path = none) : ReadPiece files path .idle (.inr none)
  | begins {file : Nat} (found : files.entry path = some file) :
      ReadPiece files path .idle (.inl (.reading file []))
  | reads {file : Nat} {seen more : List Byte} (nonempty : more ≠ [])
      (next : more <+: (files.content file).drop seen.length) :
      ReadPiece files path (.reading file seen) (.inl (.reading file (seen ++ more)))
  | stops {file : Nat} {seen : List Byte} (all : (files.content file).length ≤ seen.length) :
      ReadPiece files path (.reading file seen) (.inr (some seen))

/-- A copy creates its target once the source is open, and writes what it reads
before it reads on. -/
inductive CopyPiece [Inhabited Byte] (files : Files Path Byte) (source target : Path) :
    Work Byte → Work Byte ⊕ Option Nat → Files Path Byte → Prop where
  | missing (absent : files.entry source = none) :
      CopyPiece files source target .idle (.inr none) files
  | opens {file : Nat} (found : files.entry source = some file) :
      CopyPiece files source target .idle (.inl (.opened file)) files
  | creates {file : Nat} :
      CopyPiece files source target (.opened file)
        (.inl (.copying file (files.create target).1 [] [])) (files.create target).2
  | reads {origin into : Nat} {seen more : List Byte} (nonempty : more ≠ [])
      (next : more <+: (files.content origin).drop seen.length) :
      CopyPiece files source target (.copying origin into seen [])
        (.inl (.copying origin into (seen ++ more) more)) files
  | writes {origin into : Nat} {seen now later : List Byte} (nonempty : now ≠ []) :
      CopyPiece files source target (.copying origin into seen (now ++ later))
        (.inl (.copying origin into seen later))
        (files.put into (overwritten (files.content into)
          (seen.length - (now ++ later).length) now))
  | stops {origin into : Nat} {seen : List Byte}
      (all : (files.content origin).length ≤ seen.length) :
      CopyPiece files source target (.copying origin into seen []) (.inr (some seen.length)) files

/-- While the file at the path is kept, what was read is how its content begins. -/
def Reads (path : Path) (work : Work Byte) (files : Files Path Byte) : Prop :=
  match work with
  | .reading file seen => files.entry path = some file ∧ seen <+: files.content file
  | _ => True

variable {before after : Files Path Byte} {work left : Work Byte}

omit [DecidableEq Path] in
theorem reads_kept (reads : Reads path work before) (kept : Kept path before after) :
    Reads path work after := by
  cases work with
  | reading file seen =>
    obtain ⟨leads, begins⟩ := reads
    exact ⟨kept.entry.trans leads, (kept.content file leads) ▸ begins⟩
  | _ => trivial

theorem prefix_grows {Item : Type} {seen more whole : List Item} (begins : seen <+: whole)
    (next : more <+: whole.drop seen.length) : seen ++ more <+: whole := by
  obtain ⟨rest, rfl⟩ := begins
  rw [List.drop_left] at next
  exact (List.prefix_append_right_inj seen).mpr next

omit [DecidableEq Path] in
theorem read_piece_reads (reads : Reads path work before)
    (done : ReadPiece before path work (.inl left)) : Reads path left before := by
  cases done with
  | begins found => exact ⟨found, List.nil_prefix⟩
  | reads nonempty next => exact ⟨reads.1, prefix_grows reads.2 next⟩

omit [DecidableEq Path] in
/-- A file that was kept while it was read has been read as it is. -/
theorem read_piece_whole {bytes : List Byte} (reads : Reads path work before)
    (done : ReadPiece before path work (.inr (some bytes))) :
    ∃ file, before.entry path = some file ∧ before.content file = bytes := by
  cases done with
  | stops all => exact ⟨_, reads.1, (reads.2.eq_of_length_le all).symm⟩

/-- While source and target are kept by others, the target is what was read but
for what is still to be written. -/
def Copies (source target : Path) (content : List Byte) (work : Work Byte)
    (files : Files Path Byte) : Prop :=
  match work with
  | .copying origin into seen left => files.entry source = some origin ∧
      files.content origin = content ∧ files.entry target = some into ∧
      files.content into ++ left = seen ∧ seen <+: content
  | .opened file => files.entry source = some file ∧ files.content file = content
  | _ => ∃ file, files.entry source = some file ∧ files.content file = content

-- What a copy needs others to leave alone.
def CopyKept (source target : Path) (work : Work Byte) (before after : Files Path Byte) : Prop :=
  Kept source before after ∧ ∀ origin into seen left, work = .copying origin into seen left →
    Kept target before after

variable {content : List Byte}

omit [DecidableEq Path] in
theorem copies_kept (copies : Copies source target content work before)
    (kept : CopyKept source target work before after) :
    Copies source target content work after := by
  obtain ⟨keptSource, keptTarget⟩ := kept
  cases work with
  | copying origin into seen left =>
    obtain ⟨leads, whole, reached, written, begins⟩ := copies
    have keptTarget := keptTarget origin into seen left rfl
    refine ⟨keptSource.entry.trans leads, (keptSource.content origin leads).trans whole,
      keptTarget.entry.trans reached, ?_, begins⟩
    rw [keptTarget.content into reached]
    exact written
  | opened file =>
    obtain ⟨leads, whole⟩ := copies
    exact ⟨keptSource.entry.trans leads, (keptSource.content file leads).trans whole⟩
  | _ =>
    obtain ⟨file, leads, whole⟩ := copies
    exact ⟨file, keptSource.entry.trans leads, (keptSource.content file leads).trans whole⟩

theorem overwritten_end [Inhabited Byte] (content bytes : List Byte) :
    overwritten content content.length bytes = content ++ bytes := by
  simp [overwritten, resized]

variable [Inhabited Byte]

theorem copy_piece_copies (different : source ≠ target)
    (copies : Copies source target content work before)
    (done : CopyPiece before source target work (.inl left) after) :
    Copies source target content left after := by
  cases done with
  | opens found =>
    obtain ⟨file, leads, whole⟩ := copies
    rw [leads, Option.some.injEq] at found
    subst found
    exact ⟨leads, whole⟩
  | @creates file =>
    obtain ⟨leads, whole⟩ := copies
    have kept : Kept source before (before.create target).2 := create_kept different
    refine ⟨kept.entry.trans leads, (kept.content file leads).trans whole, create_entry, ?_,
      List.nil_prefix⟩
    rw [create_empty]
    rfl
  | reads nonempty next =>
    obtain ⟨leads, whole, reached, written, begins⟩ := copies
    rw [List.append_nil] at written
    refine ⟨leads, whole, reached, by rw [written], ?_⟩
    rw [← whole] at begins ⊢
    exact prefix_grows begins next
  | @writes origin into seen now later nonempty =>
    obtain ⟨leads, whole, reached, written, begins⟩ := copies
    have apart : origin ≠ into := by
      intro same
      exact different (before.single source target origin leads (same ▸ reached))
    have position : seen.length - (now ++ later).length = (before.content into).length := by
      rw [← written, List.length_append]
      omega
    refine ⟨leads, (Function.update_of_ne apart _ _).trans whole, reached, ?_, begins⟩
    rw [position, overwritten_end]
    change Function.update before.content into _ into ++ later = seen
    rw [Function.update_self, List.append_assoc]
    exact written

/-- A finished copy has the content of its source. -/
theorem copy_piece_whole {count : Nat} (copies : Copies source target content work before)
    (done : CopyPiece before source target work (.inr (some count)) after) :
    ∃ file, after.entry target = some file ∧ after.content file = content := by
  cases done with
  | stops all =>
    obtain ⟨leads, whole, reached, written, begins⟩ := copies
    rw [List.append_nil] at written
    refine ⟨_, reached, ?_⟩
    rw [written]
    rw [whole] at all
    exact begins.eq_of_length_le all
end Pieces
end Misaka.SharedFiles
