import Misaka.RelyGuarantee
import Misaka.SharedFiles
import Misaka.TransferCrash

/-!
Several transfer services at work on one disk. Every file operation proceeds as
the runtime performs it: a rename at once, a read, write or copy in pieces with
steps of other services in between. A request may be cut off at any time, and
its locks are then free. Besides the files the node keeps notes of what each
service did, which no operation reads.
-/

namespace Misaka.TransferThreads
open Bincode Identity Protocol EffectTask NodeRuntime HumanAuthorization TransferFiles
open StreamServices Sha256 TransferDisk TransferCrash SharedFiles RelyGuarantee
variable {Index : Type} {answers : Index → (op : RuntimeOp) → op.Result → Prop} {work : Work UInt8}
variable {thread : Index}

/-- `moved` is where the last rename led to and with what content, `opened` the
file that was last opened for writing, until the next unlock. -/
structure Notes where
  moved : Option (String × List UInt8)
  opened : Option Nat
  last : Option FileOp

/-- A cursor at no position is one that appends. -/
structure Node (Index : Type) where
  files : Files String UInt8
  cursor : Index → Option Nat
  locks : String → Option Index
  notes : Index → Notes

-- Directories and copies are passed over.
def Notes.add (notes : Notes) (files : Files String UInt8) : (op : FileOp) → op.Result → Notes
  | .createDirAll _, _ | .copy _ _, _ => notes
  | .rename source target, _ =>
    { notes with
      moved := (files.entry source).map fun file => (target, files.content file)
      last := some (.rename source target) }
  | .openWrite path, .ok handle =>
    { notes with opened := some handle.id, last := some (.openWrite path) }
  | .unlock path, _ => { notes with opened := none, last := some (.unlock path) }
  | op, _ => { notes with last := some op }

section Operations
variable [DecidableEq Index] (thread : Index)

def openAt (node : Node Index) (path : String) (position : Option Nat) :
    Except IoError FileHandle × Node Index :=
  match node.files.entry path with
  | some file => (.ok ⟨file⟩, { node with cursor := Function.update node.cursor thread position })
  | none => (.error missingFile, node)

/-- The operations that happen at once. A lock that is taken has no answer yet. -/
def instant (node : Node Index) : (op : FileOp) → Option (op.Result × Node Index)
  | .createDirAll _ => some (.ok (), node)
  | .create path =>
    some (.ok ⟨(node.files.create path).1⟩,
      { node with
        files := (node.files.create path).2
        cursor := Function.update node.cursor thread (some 0) })
  | .openAppend path => some (openAt thread node path none)
  | .openWrite path => some (openAt thread node path (some 0))
  | .seek _ offset =>
    some (.ok (), { node with cursor := Function.update node.cursor thread offset.toNat })
  | .setLen file size =>
    some (.ok (), { node with
      files := node.files.put file.handle.id
        (resized (node.files.content file.handle.id) size.toNat) })
  | .flush _ => some (.ok (), node)
  | .rename source target =>
    some (found ((node.files.entry source).map node.files.content) fun _ => (),
      { node with files := node.files.rename source target })
  | .remove path =>
    some (found ((node.files.entry path).map node.files.content) fun _ => (),
      { node with files := node.files.remove path })
  | .exists_ path => some (.ok (node.files.entry path).isSome, node)
  | .length path =>
    some (found ((node.files.entry path).map node.files.content) fun bytes =>
      UInt64.ofNat bytes.length, node)
  | .lock path =>
    match node.locks path with
    | none => some ((), { node with locks := Function.update node.locks path (some thread) })
    | some _ => none
  | .unlock path => some ((), { node with locks := Function.update node.locks path none })
  | .read _ | .hash _ | .write _ _ | .writeAll _ _ | .copy _ _ => none

def Node.noted (before after : Node Index) (op : FileOp) (result : op.Result) : Node Index :=
  { after with
    notes := Function.update before.notes thread ((before.notes thread).add before.files op result) }

inductive FilePiece (node : Node Index) :
    Work UInt8 → (op : FileOp) → Work UInt8 ⊕ op.Result → Node Index → Prop where
  | instant {op : FileOp} {result : op.Result} {after : Node Index}
      (answered : instant thread node op = some (result, after)) :
      FilePiece node .idle op (.inr result) (node.noted thread after op result)
  | reads {path : String} {work left : Work UInt8}
      (done : ReadPiece node.files path work (.inl left)) :
      FilePiece node work (.read path) (.inl left) node
  | hasRead {path : String} {work : Work UInt8} {bytes : Option (List UInt8)}
      (done : ReadPiece node.files path work (.inr bytes)) :
      FilePiece node work (.read path) (.inr (found bytes id))
        (node.noted thread node (.read path) (found bytes id))
  | hashes {path : String} {work left : Work UInt8}
      (done : ReadPiece node.files path work (.inl left)) :
      FilePiece node work (.hash path) (.inl left) node
  | hasHashed {path : String} {work : Work UInt8} {bytes : Option (List UInt8)}
      (done : ReadPiece node.files path work (.inr bytes)) :
      FilePiece node work (.hash path) (.inr (found bytes sha256))
        (node.noted thread node (.hash path) (found bytes sha256))
  | copies {source target : String} {work left : Work UInt8} {files : Files String UInt8}
      (done : CopyPiece node.files source target work (.inl left) files) :
      FilePiece node work (.copy source target) (.inl left) { node with files := files }
  | hasCopied {source target : String} {work : Work UInt8} {count : Nat}
      {files : Files String UInt8}
      (done : CopyPiece node.files source target work (.inr (some count)) files) :
      FilePiece node work (.copy source target) (.inr (.ok (UInt64.ofNat count)))
        { node with files := files }
  | notCopied {source target : String} {work : Work UInt8} {files : Files String UInt8}
      (done : CopyPiece node.files source target work (.inr none) files) :
      FilePiece node work (.copy source target) (.inr (.error missingFile))
        { node with files := files }
  | creates {path : String} {bytes : List UInt8} :
      FilePiece node .idle (.write path bytes)
        (.inl (.writing (node.files.create path).1 bytes))
        { node with files := (node.files.create path).2 }
  | fills {path : String} {bytes now later : List UInt8} {file : Nat} (nonempty : now ≠ []) :
      FilePiece node (.writing file (now ++ later)) (.write path bytes) (.inl (.writing file later))
        { node with
          files := node.files.put file (overwritten (node.files.content file)
            (bytes.length - (now ++ later).length) now) }
  | hasFilled {path : String} {bytes : List UInt8} {file : Nat} :
      FilePiece node (.writing file []) (.write path bytes) (.inr (.ok ()))
        (node.noted thread node (.write path bytes) (.ok ()))
  | begins {file : OpenFile} {bytes : List UInt8} :
      FilePiece node .idle (.writeAll file bytes) (.inl (.writing file.handle.id bytes)) node
  | appends {file : OpenFile} {bytes now later : List UInt8} {target : Nat} (nonempty : now ≠ [])
      (atEnd : node.cursor thread = none) :
      FilePiece node (.writing target (now ++ later)) (.writeAll file bytes)
        (.inl (.writing target later))
        { node with files := node.files.put target (node.files.content target ++ now) }
  | overwrites {file : OpenFile} {bytes now later : List UInt8} {target position : Nat}
      (nonempty : now ≠ []) (at_ : node.cursor thread = some position) :
      FilePiece node (.writing target (now ++ later)) (.writeAll file bytes)
        (.inl (.writing target later))
        { node with
          files := node.files.put target (overwritten (node.files.content target) position now)
          cursor := Function.update node.cursor thread (some (position + now.length)) }
  | hasWritten {file : OpenFile} {bytes : List UInt8} {target : Nat} :
      FilePiece node (.writing target []) (.writeAll file bytes) (.inr (.ok ()))
        (node.noted thread node (.writeAll file bytes) (.ok ()))

/-- Off the disk a request is answered as its sender and the node may answer it. -/
inductive Piece (answers : Index → (op : RuntimeOp) → op.Result → Prop) (node : Node Index) :
    Work UInt8 → (op : RuntimeOp) → Work UInt8 ⊕ op.Result → Node Index → Prop where
  | file {work : Work UInt8} {op : FileOp} {outcome : Work UInt8 ⊕ op.Result} {after : Node Index}
      (done : FilePiece thread node work op outcome after) :
      Piece answers node work (.file op) outcome after
  | other {op : RuntimeOp} {result : op.Result} (off : OffDisk op)
      (answered : answers thread op result) : Piece answers node .idle op (.inr result) node

structure Halted (gone : Index → Prop) (before after : Node Index) : Prop where
  files : after.files = before.files
  cursor : after.cursor = before.cursor
  locks : ∀ path holder, after.locks path = some holder ↔
    before.locks path = some holder ∧ ¬ gone holder
  kept : ∀ thread, ¬ gone thread → after.notes thread = before.notes thread
  closed : ∀ thread, gone thread → (after.notes thread).opened = none

def machine (answers : Index → (op : RuntimeOp) → op.Result → Prop) :
    Machine Index RuntimeOp RuntimeOp.Result IoError (Work UInt8) (Node Index) where
  idle := .idle
  cut := ⟨.other, "request cut off"⟩
  progress := fun thread node work op outcome after =>
    Piece thread answers node work op outcome after
  halts := Halted

abbrev Services (Index : Type) :=
  Crew Index RuntimeOp RuntimeOp.Result IoError Unit (Work UInt8) (Node Index)
end Operations

/-! What a piece of work leaves alone. -/
section Pieces
variable [DecidableEq Index] {other : Index}
variable {before after : Node Index}
variable {op : RuntimeOp} {outcome : Work UInt8 ⊕ op.Result}

theorem noted_others {op : FileOp} {result : op.Result} (different : other ≠ thread) :
    (before.noted thread after op result).notes other = before.notes other :=
  Function.update_of_ne different _ _

theorem piece_notes_others (done : Piece thread answers before work op outcome after)
    (different : other ≠ thread) : after.notes other = before.notes other := by
  cases done with
  | other off answered => rfl
  | file done => cases done <;> first | rfl | exact noted_others different

def Renames : RuntimeOp → Prop
  | .file (.rename _ _) => True
  | _ => False

theorem add_moved {notes : Notes} {files : Files String UInt8} {op : FileOp} {result : op.Result}
    (other : ¬ Renames (.file op)) : (notes.add files op result).moved = notes.moved := by
  cases op with
  | rename source target => exact absurd trivial other
  | openWrite path => cases result <;> rfl
  | _ => rfl

theorem piece_moved (done : Piece thread answers before work op outcome after)
    (other : ¬ Renames op) : (after.notes thread).moved = (before.notes thread).moved := by
  cases done with
  | other off answered => rfl
  | file done =>
    cases done <;> first
      | rfl
      | (simp only [Node.noted, Function.update_self]; exact add_moved other)
end Pieces

variable {terms : Terms RuntimeOp (Work UInt8) (Node Index)} {pre : Node Index → Prop}

/-! One file operation of a secure task. -/
section Calls
variable [DecidableEq Index]
variable {failed : Node Index → IoError → Prop}

variable {op : FileOp}

theorem file_piece {before after : Node Index} {outcome : Work UInt8 ⊕ op.Result}
    (done : Piece thread answers before work (.file op) outcome after) :
    FilePiece thread before work op outcome after := by
  cases done with
  | file done => exact done
  | other off answered => exact off.elim

/-- What is owed while a file operation is under way. -/
structure FileSustains (thread : Index) (terms : Terms RuntimeOp (Work UInt8) (Node Index))
    (op : FileOp) (during : Work UInt8 → Node Index → Prop) : Prop where
  stable : ∀ {work before after}, during work before → terms.rely (.file op) work before after →
    during work after
  works : ∀ {work before left after}, during work before →
    FilePiece thread before work op (.inl left) after →
    during left after ∧ terms.guarantee before after
  finishes : ∀ {work before result after}, during work before →
    FilePiece thread before work op (.inr result) after → terms.guarantee before after
  guarded : ∀ {work state}, during work state → terms.guard (.file op) work state

theorem file_sustains {during : Work UInt8 → Node Index → Prop}
    (sustained : FileSustains thread terms op during) :
    Sustains (machine answers) thread terms (.file op) during := by
  constructor
  · exact sustained.stable
  · intro work before left after holds done
    exact sustained.works holds (file_piece done)
  · intro work before result after holds done
    exact sustained.finishes holds (file_piece done)
  · exact sustained.guarded

theorem secure_file {post : Node Index → op.Result → Prop} (during : Work UInt8 → Node Index → Prop)
    (begins : ∀ node, pre node → during .idle node)
    (sustained : FileSustains thread terms op during)
    (ends : ∀ {work before result after}, during work before →
      FilePiece thread before work op (.inr result) after → post after result) :
    Secure (machine answers) thread terms (perform (RuntimeOp.file op) : RuntimeTask IoError _)
      pre post failed := by
  apply secure_perform during begins (file_sustains sustained)
  intro work before result after holds done
  exact ends holds (file_piece done)

theorem secure_file_call {Value : Type} {fallible : op.Result = Except IoError Value}
    {post : Node Index → Value → Prop} (during : Work UInt8 → Node Index → Prop)
    (begins : ∀ node, pre node → during .idle node)
    (sustained : FileSustains thread terms op during)
    (ends : ∀ {work before result after}, during work before →
      FilePiece thread before work op (.inr result) after → (∀ value, cast fallible result =
      .ok value → post after value) ∧ ∀ error, cast fallible result = .error error →
      failed after error) :
    Secure (machine answers) thread terms (fileCall op fallible) pre post failed := by
  apply secure_bind (secure_file during begins sustained ends)
  intro result
  apply secure_or_error
  · intro value worked node ended
    exact ended.1 value worked
  · intro error broke node ended
    exact ended.2 error broke
end Calls

/-! Files whose digest was checked. The premises say which steps of others the
operations rely on to leave a file alone. -/
section Checked
variable [DecidableEq Index]

/-- The path leads to a file with this digest. -/
def Contains (path : String) (digest : Bytes 32) (node : Node Index) : Prop :=
  ∃ file, node.files.entry path = some file ∧ sha256 (node.files.content file) = digest

variable {digest : Bytes 32}

variable {path : String}

omit [DecidableEq Index] in
theorem contains_kept {before after : Node Index} (contains : Contains path digest before)
    (kept : Kept path before.files after.files) :
    Contains path digest after := by
  obtain ⟨file, leads, checked⟩ := contains
  exact ⟨file, kept.entry.trans leads, (kept.content file leads) ▸ checked⟩

theorem secure_hash (free : ∀ before after, terms.guarantee before after)
    (unguarded : ∀ work node, terms.guard (.file (.hash path)) work node)
    (spared : ∀ {file seen before after},
      terms.rely (.file (.hash path)) (.reading file seen) before after →
      Kept path before.files after.files) :
    Secure (machine answers) thread terms (hashFilePath path) pre
      (fun node digest => Contains path digest node ∧
        (node.notes thread).last = some (.hash path)) fun _ _ => True := by
  apply secure_file_call fun work node => Reads path work node.files
  · intro _ _
    trivial
  · constructor
    · intro work before after reads relied
      cases work with
      | reading file seen => exact reads_kept reads (spared relied)
      | _ => trivial
    · intro work before left after reads done
      cases done with
      | hashes done => exact ⟨read_piece_reads reads done, free _ _⟩
    · intro _ _ _ _ _ _
      exact free _ _
    · intro work node _
      exact unguarded work node
  · intro work before result after reads done
    refine ⟨fun digest ended => ?_, fun _ _ => trivial⟩
    cases done with
    | instant answered => cases answered
    | @hasHashed _ _ bytes done =>
      cases bytes with
      | none => cases ended
      | some bytes =>
        obtain ⟨file, leads, whole⟩ := read_piece_whole reads done
        cases ended
        refine ⟨⟨file, leads, congrArg sha256 whole⟩, ?_⟩
        simp [Node.noted, Notes.add]

theorem secure_copy {source target : String} (different : source ≠ target)
    (free : ∀ before after, terms.guarantee before after)
    (unguarded : ∀ work node, terms.guard (.file (.copy source target)) work node)
    (spared : ∀ {work before after}, terms.rely (.file (.copy source target)) work before after →
      CopyKept source target work before.files after.files) :
    Secure (machine answers) thread terms (copyFile source target) (Contains source digest)
      (fun node _ => Contains target digest node) fun _ _ => True := by
  apply secure_file_call fun work node => ∃ content, sha256 content = digest ∧
    Copies source target content work node.files
  · rintro node ⟨file, leads, checked⟩
    exact ⟨_, checked, file, leads, rfl⟩
  · constructor
    · rintro work before after ⟨content, checked, copies⟩ relied
      exact ⟨content, checked, copies_kept copies (spared relied)⟩
    · rintro work before left after ⟨content, checked, copies⟩ done
      cases done with
      | copies done => exact ⟨⟨content, checked, copy_piece_copies different copies done⟩, free _ _⟩
    · intro _ _ _ _ _ _
      exact free _ _
    · intro work node _
      exact unguarded work node
  · rintro work before result after ⟨content, checked, copies⟩ done
    refine ⟨fun count ended => ?_, fun _ _ => trivial⟩
    cases done with
    | instant answered => cases answered
    | hasCopied done =>
      obtain ⟨file, leads, whole⟩ := copy_piece_whole copies done
      exact ⟨file, leads, (congrArg sha256 whole).trans checked⟩
    | notCopied done => cases ended

theorem secure_rename {source target : String} {failed : Node Index → IoError → Prop}
    (free : ∀ before after, terms.guarantee before after)
    (unguarded : ∀ work node, terms.guard (.file (.rename source target)) work node)
    (spared : ∀ {work before after}, terms.rely (.file (.rename source target)) work before after →
      Kept source before.files after.files) :
    Secure (machine answers) thread terms
      (perform (RuntimeOp.file (.rename source target)) : RuntimeTask IoError _)
      (Contains source digest) (fun node result => result = .ok () ∧
        ∃ content, (node.notes thread).moved = some (target, content) ∧ sha256 content = digest)
      failed := by
  apply secure_file fun _ node => Contains source digest node
  · intro _ checked
    exact checked
  · constructor
    · intro work before after checked relied
      exact contains_kept checked (spared relied)
    · intro work before left after _ done
      cases done
    · intro _ _ _ _ _ _
      exact free _ _
    · intro work node _
      exact unguarded work node
  · rintro work before result after ⟨file, leads, checked⟩ done
    cases done with
    | instant answered =>
      cases answered
      refine ⟨by rw [leads]; rfl, before.files.content file, ?_, checked⟩
      simp [Node.noted, Notes.add, leads]
end Checked

/-! One service walks on while the others stand still. -/
section Walking
variable [DecidableEq Index]

structure Place (Index : Type) where
  node : Node Index
  work : Work UInt8
  task : RuntimeTask IoError Unit

inductive Moves (answers : Index → (op : RuntimeOp) → op.Result → Prop) (thread : Index) :
    Place Index → Place Index → Prop where
  | works {node after : Node Index} {work left : Work UInt8} {op : RuntimeOp}
      {next : op.Result → RuntimeTask IoError Unit}
      (done : Piece thread answers node work op (.inl left) after) :
      Moves answers thread ⟨node, work, .call op next⟩ ⟨after, left, .call op next⟩
  | finishes {node after : Node Index} {work : Work UInt8} {op : RuntimeOp} {result : op.Result}
      {next : op.Result → RuntimeTask IoError Unit}
      (done : Piece thread answers node work op (.inr result) after) :
      Moves answers thread ⟨node, work, .call op next⟩ ⟨after, .idle, next result⟩

def Gets (answers : Index → (op : RuntimeOp) → op.Result → Prop) (thread : Index)
    (place : Place Index) (goal : Place Index → Prop) : Prop :=
  ∃ final, Relation.ReflTransGen (Moves answers thread) place final ∧ goal final

variable {node after : Node Index} {left : Work UInt8} {goal middle : Place Index → Prop}
variable {place : Place Index}

theorem gets_here (reached : goal place) : Gets answers thread place goal := ⟨place, .refl, reached⟩

theorem gets_then (first : Gets answers thread place middle)
    (second : ∀ later, middle later → Gets answers thread later goal) :
    Gets answers thread place goal := by
  obtain ⟨later, walked, reached⟩ := first
  obtain ⟨final, rest, ended⟩ := second later reached
  exact ⟨final, walked.trans rest, ended⟩

variable {op : RuntimeOp}

theorem gets_works {next : op.Result → RuntimeTask IoError Unit}
    (done : Piece thread answers node work op (.inl left) after)
    (rest : Gets answers thread ⟨after, left, .call op next⟩ goal) :
    Gets answers thread ⟨node, work, .call op next⟩ goal := by
  obtain ⟨final, walked, reached⟩ := rest
  exact ⟨final, .head (.works done) walked, reached⟩

theorem gets_finishes {result : op.Result} {next : op.Result → RuntimeTask IoError Unit}
    (done : Piece thread answers node work op (.inr result) after)
    (rest : Gets answers thread ⟨after, .idle, next result⟩ goal) :
    Gets answers thread ⟨node, work, .call op next⟩ goal := by
  obtain ⟨final, walked, reached⟩ := rest
  exact ⟨final, .head (.finishes done) walked, reached⟩

theorem gets_instant (op : FileOp) {result : op.Result}
    {next : op.Result → RuntimeTask IoError Unit}
    (answered : instant thread node op = some (result, after))
    (rest : Gets answers thread ⟨node.noted thread after op result, .idle, next result⟩ goal) :
    Gets answers thread ⟨node, .idle, .call (.file op) next⟩ goal :=
  gets_finishes (.file (.instant answered)) rest

theorem gets_answered (op : RuntimeOp) (result : op.Result)
    {next : op.Result → RuntimeTask IoError Unit} (off : OffDisk op)
    (answered : answers thread op result)
    (rest : Gets answers thread ⟨node, .idle, next result⟩ goal) :
    Gets answers thread ⟨node, .idle, .call op next⟩ goal :=
  gets_finishes (.other off answered) rest

theorem gets_frame (body : List UInt8) {stream : NetworkStream} {limit : Nat} {Value : Type}
    {decode : Decoder Value} {value : Value} {rest : Value → RuntimeTask IoError Unit}
    (short : body.length ≤ limit) (small : limit < 256 ^ 4) (decodes : decode body = .ok value)
    (header : answers thread (.readExact stream 4) (.ok (bigEndian 4 body.length)))
    (sent : answers thread (.readExact stream body.length) (.ok body))
    (gets : Gets answers thread ⟨node, .idle, rest value⟩ goal) :
    Gets answers thread ⟨node, .idle, readBincodeFrame limit decode stream >>= rest⟩ goal := by
  have length : ofBigEndian (bigEndian 4 body.length) = body.length :=
    of_big_endian_encoding 4 body.length (short.trans_lt small)
  unfold readBincodeFrame readRequest readFrame perform
  simp only [call_bind, done_bind]
  apply gets_answered (.readExact stream 4) (.ok (bigEndian 4 body.length)) trivial header
  rw [or_error_ok, done_bind, length, decide_eq_true short, ensure_true, done_bind]
  apply gets_answered (.readExact stream body.length) (.ok body) trivial sent
  change Gets answers thread ⟨_, _, orError invalidData (decode body) >>= rest⟩ _
  rw [decodes]
  exact gets

variable {path source target : String} {file : Nat} {bytes : List UInt8}

-- A file that is left alone is read in one piece.
theorem gets_hash {next : Except IoError (Bytes 32) → RuntimeTask IoError Unit}
    (found : node.files.entry path = some file) (holds : node.files.content file = bytes)
    (rest : Gets answers thread ⟨node.noted thread node (.hash path) (.ok (sha256 bytes)), .idle,
      next (.ok (sha256 bytes))⟩ goal) :
    Gets answers thread ⟨node, .idle, .call (.file (.hash path)) next⟩ goal := by
  apply gets_works (.file (.hashes (.begins found)))
  have stop : ReadPiece node.files path (.reading file bytes) (.inr (some bytes)) :=
    .stops (Nat.le_of_eq (congrArg List.length holds))
  by_cases empty : bytes = []
  · subst empty
    exact gets_finishes (.file (.hasHashed stop)) rest
  · have read : ReadPiece node.files path (.reading file []) (.inl (.reading file ([] ++ bytes))) :=
      .reads empty (by rw [holds]; exact List.prefix_rfl)
    exact gets_works (.file (.hashes read)) (gets_finishes (.file (.hasHashed stop)) rest)

theorem gets_copy {next : Except IoError UInt64 → RuntimeTask IoError Unit}
    (different : source ≠ target) (found : node.files.entry source = some file)
    (holds : node.files.content file = bytes)
    (rest : ∀ files into, files.entry target = some into → files.content into = bytes →
      (∀ path, path ≠ target → Kept path node.files files) →
      Gets answers thread
        ⟨{ node with files := files }, .idle, next (.ok (UInt64.ofNat bytes.length))⟩ goal) :
    Gets answers thread ⟨node, .idle, .call (.file (.copy source target)) next⟩ goal := by
  have kept : ∀ path, path ≠ target → Kept path node.files (node.files.create target).2 :=
    fun path other => create_kept other
  have still : (node.files.create target).2.content file = bytes :=
    ((kept source different).content file found).trans holds
  apply gets_works (.file (.copies (.opens found)))
  apply gets_works (.file (.copies .creates))
  by_cases empty : bytes = []
  · subst empty
    have stop : CopyPiece (node.files.create target).2 source target
        (.copying file (node.files.create target).1 [] []) (.inr (some [].length))
        (node.files.create target).2 := .stops (Nat.le_of_eq (congrArg List.length still))
    exact gets_finishes (.file (.hasCopied stop)) (rest _ _ create_entry create_empty kept)
  · obtain ⟨into, files, made⟩ : ∃ into files, node.files.create target = (into, files) :=
      ⟨_, _, rfl⟩
    have leads : files.entry target = some into := by
      have entry : (node.files.create target).2.entry target =
        some (node.files.create target).1 := create_entry
      rwa [made] at entry
    have fresh : files.content into = [] := by
      have content : (node.files.create target).2.content (node.files.create target).1 = [] :=
        create_empty
      rwa [made] at content
    simp only [made] at kept still ⊢
    have apart : file ≠ into := by
      intro same
      have origin : files.entry source = some into :=
        (kept source different).entry.trans (same ▸ found)
      exact different (files.single source target into origin leads)
    have read : CopyPiece files source target (.copying file into [] [])
        (.inl (.copying file into ([] ++ bytes) bytes)) files :=
      .reads empty (by rw [still]; exact List.prefix_rfl)
    have write : CopyPiece files source target (.copying file into bytes (bytes ++ []))
        (.inl (.copying file into bytes [])) (files.put into (overwritten (files.content into)
          (bytes.length - (bytes ++ []).length) bytes)) := .writes empty
    rw [List.append_nil, Nat.sub_self, fresh] at write
    have whole : overwritten ([] : List UInt8) 0 bytes = bytes := by simp [overwritten, resized]
    rw [whole] at write
    have stop : CopyPiece (files.put into bytes) source target (.copying file into bytes [])
        (.inr (some bytes.length)) (files.put into bytes) := by
      apply CopyPiece.stops
      change (Function.update files.content into bytes file).length ≤ _
      rw [Function.update_of_ne apart, still]
    apply gets_works (.file (.copies read))
    apply gets_works (.file (.copies write))
    apply gets_finishes (.file (.hasCopied stop))
    apply rest (files.put into bytes) into leads (Function.update_self _ _ _)
    intro path other
    have elsewhere : Kept path files (files.put into bytes) := by
      apply put_kept
      intro same
      exact other (files.single path target into same leads)
    exact kept_trans (kept path other) elsewhere

theorem instant_rename (found : node.files.entry source = some file) :
    instant thread node (.rename source target) =
      some (.ok (), { node with files := node.files.rename source target }) := by
  simp only [instant, found]
  rfl

theorem instant_present (found : node.files.entry path = some file) :
    instant thread node (.exists_ path) = some (.ok true, node) := by
  simp only [instant, found]
  rfl

theorem instant_absent (missing : node.files.entry path = none) :
    instant thread node (.exists_ path) = some (.ok false, node) := by
  simp only [instant, missing]
  rfl

theorem instant_append (found : node.files.entry path = some file) :
    instant thread node (.openAppend path) =
      some (.ok ⟨file⟩, { node with cursor := Function.update node.cursor thread none }) := by
  simp only [instant, openAt, found]

theorem appends_all {handle : OpenFile} {now : List UInt8} (nonempty : now ≠ [])
    (atEnd : node.cursor thread = none) :
    FilePiece thread node (.writing file now) (.writeAll handle bytes) (.inl (.writing file []))
      { node with files := node.files.put file (node.files.content file ++ now) } := by
  have done : FilePiece thread node (.writing file (now ++ [])) (.writeAll handle bytes)
      (.inl (.writing file []))
      { node with files := node.files.put file (node.files.content file ++ now) } :=
    .appends nonempty atEnd
  rwa [List.append_nil] at done

theorem moves_step {crew : Services Index} {later : Place Index}
    (move : Moves answers thread place later) :
    Step (machine answers) (some thread)
      (crew.advance thread place.task place.work place.node)
      (crew.advance thread later.task later.work later.node) := by
  have again : ∀ (task : RuntimeTask IoError Unit) (work : Work UInt8) (node : Node Index),
      crew.advance thread task work node =
        (crew.advance thread place.task place.work place.node).advance thread task work node := by
    intro task work node
    simp [Crew.advance]
  rw [again later.task]
  cases move with
  | works done =>
    apply Step.works (Function.update_self _ _ _)
    simpa [Crew.advance, machine] using done
  | finishes done =>
    apply Step.finishes (Function.update_self _ _ _)
    simpa [Crew.advance, machine] using done

/-- Meanwhile the others are where they were. -/
theorem gets_run (thread : Index) (crew : Services Index)
    (condition : Option Index → Services Index → Services Index → Prop)
    (gets : Gets answers thread ⟨crew.shared, crew.work thread, crew.task thread⟩ goal)
    (free : ∀ before after, (∀ other, other ≠ thread → before.task other = crew.task other) →
      condition (some thread) before after) :
    ∃ final, Run (machine answers) condition crew
      (crew.advance thread final.task final.work final.node) ∧ goal final := by
  obtain ⟨final, walked, reached⟩ := gets
  refine ⟨final, ?_, reached⟩
  clear reached
  induction walked with
  | refl =>
    have here : crew.advance thread (crew.task thread) (crew.work thread) crew.shared = crew := by
      simp [Crew.advance]
    rw [here]
    exact .refl
  | tail _ last ih =>
    refine .tail ih ⟨some thread, moves_step last, free _ _ ?_⟩
    intro other different
    exact Function.update_of_ne different _ _
end Walking
end Misaka.TransferThreads
