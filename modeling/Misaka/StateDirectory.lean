import Misaka.EffectTask

/-!
Code that keeps its state in the files of one directory. A file is replaced
atomically by a rename; a plain write that is cut off, by a crash or by an error
of the disk, leaves the first part of its bytes. A call may stop after any of its
operations. What comes from outside the directory, such as random numbers, is
asked for.
-/

namespace Misaka.StateDirectory
open EffectTask
variable {Question : Type} {Reply : Question → Type} {Err Value : Type} {name : String}
variable {io : String → Err}
variable {replies : (question : Question) → Reply question → Prop}

abbrev Directory := String → Option (List UInt8)

variable (directory : Directory)

def Directory.put (name : String) (bytes : List UInt8) : Directory :=
  Function.update directory name (some bytes)

def Directory.remove (name : String) : Directory :=
  Function.update directory name none

@[simp] theorem put_self (name : String) (bytes : List UInt8) :
    directory.put name bytes name = some bytes := by
  rw [Directory.put, Function.update_self]

theorem put_other {directory : Directory} {name other : String} {bytes : List UInt8}
    (different : other ≠ name) : directory.put name bytes other = directory other := by
  rw [Directory.put, Function.update_of_ne different]

inductive StateOp (Question : Type) where
  | createDir
  | fileExists (name : String)
  | readFile (name : String)
  | writeFile (name : String) (bytes : List UInt8)
  | rename (source target : String)
  | ask (question : Question)

abbrev StateOp.Result (Reply : Question → Type) : StateOp Question → Type
  | .createDir => Except String Unit
  | .fileExists _ => Bool
  | .readFile _ => Except String (List UInt8)
  | .writeFile _ _ => Except String Unit
  | .rename _ _ => Except String Unit
  | .ask question => Reply question

abbrev StateTask (Reply : Question → Type) := Task (StateOp Question) (StateOp.Result Reply)

section Programs

def ask (question : Question) : StateTask Reply Err (Reply question) :=
  perform (StateOp.ask question)

def fileExists (name : String) : StateTask Reply Err Bool := perform (StateOp.fileExists name)

def createDir (io : String → Err) : StateTask Reply Err Unit := do
  let made ← perform .createDir
  orError io made

def readFile (name : String) (io : String → Err) : StateTask Reply Err (List UInt8) := do
  let content ← perform (.readFile name)
  orError io content

def writeFile (name : String) (bytes : List UInt8) (io : String → Err) :
    StateTask Reply Err Unit := do
  let written ← perform (.writeFile name bytes)
  orError io written

def rename (source target : String) (io : String → Err) : StateTask Reply Err Unit := do
  let moved ← perform (.rename source target)
  orError io moved

-- A missing file is no error.
def loadFile (name : String) (io : String → Err) (decode : List UInt8 → Except Err Value) :
    StateTask Reply Err (Option Value) := do
  let present ← fileExists name
  if present then do
    let bytes ← readFile name io
    let value ← ofExcept (decode bytes)
    pure (some value)
  else pure none

-- What a load that meets no error of the disk returns.
def loaded (decode : List UInt8 → Except Err Value) (directory : Directory) (name : String) :
    Except Err (Option Value) :=
  match directory name with
  | some bytes => (decode bytes).map some
  | none => .ok none

variable {decode : List UInt8 → Except Err Value} {directory : Directory}

theorem loaded_held {bytes : List UInt8} (held : directory name = some bytes) :
    loaded decode directory name = (decode bytes).map some := by
  rw [loaded, held]

theorem loaded_missing (missing : directory name = none) :
    loaded decode directory name = .ok none := by
  rw [loaded, missing]

theorem loaded_some {value : Value} (found : loaded decode directory name = .ok (some value)) :
    ∃ bytes, directory name = some bytes ∧ decode bytes = .ok value := by
  unfold loaded at found
  split at found
  · rename_i bytes held
    cases decoded : decode bytes with
    | ok other =>
      rw [decoded] at found
      cases found
      exact ⟨bytes, held, decoded⟩
    | error error =>
      rw [decoded] at found
      cases found
  · cases found

theorem loaded_none (found : loaded decode directory name = .ok none) :
    directory name = none := by
  unfold loaded at found
  split at found
  · rename_i bytes held
    cases decoded : decode bytes with
    | ok other | error error =>
      rw [decoded] at found
      cases found
  · assumption
end Programs

/-! What the operations do. -/
section Semantics

-- What a write leaves that was cut off.
def CutOff (before : Directory) (name : String) (bytes : List UInt8) (after : Directory) : Prop :=
  after = before ∨ ∃ kept, kept <+: bytes ∧ after = before.put name kept

/-- What may go wrong: operations may be refused, and writes may be cut off. -/
structure Faults where
  refuses : Prop
  cuts : Directory → String → List UInt8 → Directory → Prop

def Faults.none : Faults := ⟨False, fun _ _ _ _ => False⟩

def Faults.all : Faults := ⟨True, CutOff⟩

variable (replies : (question : Question) → Reply question → Prop) (faults : Faults)

def Acts (before : Directory) : (op : StateOp Question) → op.Result Reply → Directory → Prop
  | .createDir, .ok (), after => after = before
  | .createDir, .error _, after => faults.refuses ∧ after = before
  | .fileExists name, present, after => present = (before name).isSome ∧ after = before
  | .readFile name, .ok bytes, after => before name = some bytes ∧ after = before
  | .readFile name, .error _, after => (before name = none ∨ faults.refuses) ∧ after = before
  | .writeFile name bytes, .ok (), after => after = before.put name bytes
  | .writeFile name bytes, .error _, after => faults.cuts before name bytes after
  | .rename source target, .ok (), after =>
    ∃ bytes, before source = some bytes ∧ after = (before.remove source).put target bytes
  | .rename source _, .error _, after => (before source = none ∨ faults.refuses) ∧ after = before
  | .ask question, reply, after => replies question reply ∧ after = before

/-- What a call leaves that ran to its end or stopped on the way. -/
def Turn {Err Value : Type} (task : StateTask Reply Err Value) (before after : Directory) : Prop :=
  ∃ final, Reaches (Acts replies faults) task before final after
end Semantics

variable {faults : Faults} {before : Directory}

/-! The rules for the programs above. What is known is owed before every
operation, so it also holds wherever a call stops. -/
section Rules
variable {known : Directory → Prop} {failed : Directory → Err → Prop}

variable {post : Directory → Unit → Prop} (here : known before)
include here

theorem holds_create_dir (made : post before ())
    (refused : faults.refuses → ∀ error, failed before (io error)) :
    Holds (Acts replies faults) (fun state _ => known state) (createDir io) post failed before := by
  rw [createDir, holds_bind, holds_perform]
  refine ⟨here, ?_⟩
  intro result after acted
  cases result with
  | ok value =>
    obtain rfl : after = before := acted
    exact (holds_done _).mpr made
  | error error =>
    obtain ⟨may, rfl⟩ := acted
    exact (holds_fail _).mpr (refused may error)

theorem holds_read_file {post : Directory → List UInt8 → Prop}
    (found : ∀ bytes, before name = some bytes → post before bytes)
    (refused : before name = none ∨ faults.refuses → ∀ error, failed before (io error)) :
    Holds (Acts replies faults) (fun state _ => known state) (readFile name io) post failed
      before := by
  rw [readFile, holds_bind, holds_perform]
  refine ⟨here, ?_⟩
  intro result after acted
  cases result with
  | ok bytes =>
    obtain ⟨held, rfl⟩ := acted
    exact (holds_done _).mpr (found bytes held)
  | error error =>
    obtain ⟨may, rfl⟩ := acted
    exact (holds_fail _).mpr (refused may error)

theorem holds_write_file {bytes : List UInt8} (written : post (before.put name bytes) ())
    (cut : ∀ after error, faults.cuts before name bytes after → failed after (io error)) :
    Holds (Acts replies faults) (fun state _ => known state) (writeFile name bytes io) post failed
      before := by
  rw [writeFile, holds_bind, holds_perform]
  refine ⟨here, ?_⟩
  intro result after acted
  cases result with
  | ok value =>
    obtain rfl : after = before.put name bytes := acted
    exact (holds_done _).mpr written
  | error error => exact (holds_fail _).mpr (cut after error acted)

theorem holds_rename {source target : String} (moved : ∀ bytes, before source = some bytes →
      post ((before.remove source).put target bytes) ())
    (refused : before source = none ∨ faults.refuses → ∀ error, failed before (io error)) :
    Holds (Acts replies faults) (fun state _ => known state) (rename source target io) post failed
      before := by
  rw [rename, holds_bind, holds_perform]
  refine ⟨here, ?_⟩
  intro result after acted
  cases result with
  | ok value =>
    obtain ⟨bytes, held, rfl⟩ := acted
    exact (holds_done _).mpr (moved bytes held)
  | error error =>
    obtain ⟨may, rfl⟩ := acted
    exact (holds_fail _).mpr (refused may error)

theorem holds_ask {question : Question} {post : Directory → Reply question → Prop}
    (answered : ∀ reply, replies question reply → post before reply) :
    Holds (Acts replies faults) (fun state _ => known state)
      (ask question : StateTask Reply Err (Reply question)) post failed before := by
  rw [ask, holds_perform]
  refine ⟨here, ?_⟩
  intro reply after acted
  obtain ⟨known, rfl⟩ : replies question reply ∧ after = before := acted
  exact answered reply known

theorem holds_file_exists {post : Directory → Bool → Prop}
    (seen : post before (before name).isSome) :
    Holds (Acts replies faults) (fun state _ => known state)
      (fileExists name : StateTask Reply Err Bool) post failed before := by
  rw [fileExists, holds_perform]
  refine ⟨here, ?_⟩
  intro present after acted
  obtain ⟨rfl, rfl⟩ : present = (before name).isSome ∧ after = before := acted
  exact seen

theorem holds_load_file {decode : List UInt8 → Except Err Value}
    {post : Directory → Option Value → Prop}
    (value : ∀ found, loaded decode before name = .ok found → post before found)
    (malformed : ∀ error, loaded decode before name = .error error → failed before error)
    (refused : faults.refuses → ∀ error, failed before (io error)) :
    Holds (Acts replies faults) (fun state _ => known state) (loadFile name io decode) post failed
      before := by
  rw [loadFile, holds_bind]
  apply holds_file_exists here
  cases held : before name with
  | none =>
    exact (holds_done _).mpr (value none (loaded_missing held))
  | some bytes =>
    change Holds _ _ (readFile name io >>= _) post failed before
    rw [holds_bind]
    apply holds_read_file here
    · intro found same
      obtain rfl := Option.some.inj (held.symm.trans same)
      rw [holds_bind, holds_of_except]
      constructor
      · intro decoded equal
        apply (holds_done _).mpr
        apply value (some decoded)
        rw [loaded_held held, equal]
        rfl
      · intro error equal
        apply malformed error
        rw [loaded_held held, equal]
        rfl
    · rintro (missing | may) error
      · cases held.symm.trans missing
      · exact refused may error

omit here

/-- Wherever a call stops, what it keeps is known. -/
theorem turn_keeps {task : StateTask Reply Err Value} {after : Directory}
    (proved : Holds (Acts replies faults) (fun state _ => known state) task
      (fun after _ => known after) (fun after _ => known after) before)
    (turn : Turn replies faults task before after) : known after := by
  obtain ⟨final, run⟩ := turn
  exact holds_now (holds_reaches proved run)
end Rules

/-! Runs of the programs. -/
section Runs
variable {bytes : List UInt8}

theorem reaches_ask {question : Question} {reply : Reply question}
    (drawn : replies question reply) :
    Reaches (Acts replies faults) (ask question : StateTask Reply Err _) before (.done reply)
      before :=
  .next ⟨drawn, rfl⟩ (.here _ _)

theorem reaches_file_exists :
    Reaches (Acts replies faults) (fileExists name : StateTask Reply Err Bool) before
      (.done (before name).isSome) before :=
  .next ⟨rfl, rfl⟩ (.here _ _)

theorem reaches_create_dir :
    Reaches (Acts replies faults) (createDir io) before (.done ()) before :=
  have made : Acts replies faults before .createDir (.ok ()) before := rfl
  .next made (.here _ _)

theorem reaches_read_file (held : before name = some bytes) :
    Reaches (Acts replies faults) (readFile name io) before (.done bytes) before :=
  have read : Acts replies faults before (.readFile name) (.ok bytes) before := ⟨held, rfl⟩
  .next read (.here _ _)

theorem reaches_write_file :
    Reaches (Acts replies faults) (writeFile name bytes io) before (.done ())
      (before.put name bytes) :=
  have written : Acts replies faults before (.writeFile name bytes) (.ok ())
    (before.put name bytes) := rfl
  .next written (.here _ _)

theorem reaches_write_cut {after : Directory} (error : String)
    (cut : faults.cuts before name bytes after) :
    Reaches (Acts replies faults) (writeFile name bytes io) before (.fail (io error)) after :=
  have refused : Acts replies faults before (.writeFile name bytes) (.error error) after := cut
  .next refused (.here _ _)

theorem reaches_load_file {decode : List UInt8 → Except Err Value} {found : Option Value}
    (value : loaded decode before name = .ok found) :
    Reaches (Acts replies faults) (loadFile name io decode) before (.done found) before := by
  refine reaches_bind reaches_file_exists ?_
  cases found with
  | none =>
    rw [loaded_none value]
    exact .here _ _
  | some content =>
    obtain ⟨bytes, held, decoded⟩ := loaded_some value
    rw [held]
    refine reaches_bind (reaches_read_file held) ?_
    rw [decoded]
    exact .here _ _
end Runs

/-! A directory whose disk works answers every operation. -/
section Answering

def answer (draws : (question : Question) → Reply question) (directory : Directory) :
    (op : StateOp Question) → op.Result Reply × Directory
  | .createDir => (.ok (), directory)
  | .fileExists name => ((directory name).isSome, directory)
  | .readFile name =>
    match directory name with
    | some bytes => (.ok bytes, directory)
    | none => (.error "No such file or directory (os error 2)", directory)
  | .writeFile name bytes => (.ok (), directory.put name bytes)
  | .rename source target =>
    match directory source with
    | some bytes => (.ok (), (directory.remove source).put target bytes)
    | none => (.error "No such file or directory (os error 2)", directory)
  | .ask question => (draws question, directory)

variable {draws : (question : Question) → Reply question}

theorem answer_acts (faults : Faults) (drawn : ∀ question, replies question (draws question)) :
    Answers (answer draws) (Acts replies faults) := by
  intro directory op
  cases op with
  | createDir => exact rfl
  | fileExists name => exact ⟨rfl, rfl⟩
  | readFile name =>
    simp only [answer]
    cases content : directory name with
    | some bytes => exact ⟨content, rfl⟩
    | none => exact ⟨.inl content, rfl⟩
  | writeFile name bytes => exact rfl
  | rename source target =>
    simp only [answer]
    cases content : directory source with
    | some bytes => exact ⟨bytes, content, rfl⟩
    | none => exact ⟨.inl content, rfl⟩
  | ask question => exact ⟨drawn question, rfl⟩

theorem turn_run {Err : Type} (faults : Faults)
    (drawn : ∀ question, replies question (draws question)) (task : StateTask Reply Err Value)
    (directory : Directory) :
    Turn replies faults task directory (task.run (answer draws) directory).2 :=
  ⟨_, run_reaches (answer_acts faults drawn) task directory⟩
end Answering

/-! Calls follow each other, each in a directory where it is allowed. -/
section Histories
variable {Call : Type}

def History (turn : Call → Directory → Directory → Prop) (allowed : Directory → Call → Prop) :
    Directory → Directory → Prop :=
  Relation.ReflTransGen fun before after => ∃ call, allowed before call ∧ turn call before after

variable {turn : Call → Directory → Directory → Prop} {allowed : Directory → Call → Prop}
variable {after : Directory}

theorem history_keeps (known : Directory → Prop)
    (each : ∀ middle later call, known middle → allowed middle call → turn call middle later →
      known later)
    (history : History turn allowed before after) (start : known before) : known after := by
  induction history with
  | refl => exact start
  | tail _ step ih =>
    obtain ⟨call, permitted, taken⟩ := step
    exact each _ _ call ih permitted taken
end Histories
end Misaka.StateDirectory
