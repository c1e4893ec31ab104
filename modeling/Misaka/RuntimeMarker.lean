import Misaka.Bincode

/-!
The marker of a running Sister, `runtime.json`: a process that exits removes it if
it is its own, while a newer process puts its marker in place. Both go from one
file operation to the next, in any interleaving; either may fail at any operation.
-/

namespace Misaka.RuntimeMarker

structure RuntimeInstance where
  schemaVersion : UInt32
  instanceId : String
  pid : UInt32
  startedAt : UInt64
  apiEndpoint : String
  apiResultTimeoutSecs : UInt64
  binaryVersion : String
deriving DecidableEq

/-- Where `remove_if_matches` stands: the next operation, or its answer. -/
inductive Removal where
  | exists | read | removeFile | returned (removed : Bool)
deriving DecidableEq

/-- Where `write` stands. -/
inductive Writing where
  | createDir | writeTemp | rename | returned (written : Bool)
deriving DecidableEq

structure State where
  marker : Option (List UInt8)
  temp : Option (List UInt8)
  older : Removal
  newer : Writing
deriving DecidableEq

section Code
variable (decode : List UInt8 → Except String RuntimeInstance) (instanceId : String)

-- The marker is read once and compared; only then is the file removed.
def afterRead (bytes : List UInt8) : Removal :=
  match decode bytes with
  | .ok found => if found.instanceId = instanceId then .removeFile else .returned false
  | .error _ => .returned false

variable (written : List UInt8)

inductive Step : State → State → Prop where
  | looks {state : State} (here : state.older = .exists) :
      Step state { state with
        older := if state.marker.isSome then .read else .returned false }
  | reads {state : State} (here : state.older = .read) :
      Step state { state with
        older := (state.marker.map (afterRead decode instanceId)).getD (.returned false) }
  | removes {state : State} (here : state.older = .removeFile) :
      Step state { state with marker := none, older := .returned state.marker.isSome }
  | gives {state : State} (here : ∀ done, state.older ≠ .returned done) :
      Step state { state with older := .returned false }
  | creates {state : State} (here : state.newer = .createDir) :
      Step state { state with newer := .writeTemp }
  | writes {state : State} (here : state.newer = .writeTemp) :
      Step state { state with temp := some written, newer := .rename }
  | renames {state : State} (here : state.newer = .rename) :
      Step state { state with marker := state.temp, temp := none, newer := .returned true }
  | fails {state : State} (here : ∀ done, state.newer ≠ .returned done) :
      Step state { state with newer := .returned false }
/-- The newer marker does not come in between the comparison and the removal. -/
def Apart (before after : State) : Prop :=
  before.older = .removeFile → before.newer = .rename → after.newer ≠ .returned true

def Run (condition : State → State → Prop) : State → State → Prop :=
  Relation.ReflTransGen fun before after =>
    Step decode instanceId written before after ∧ condition before after

-- Whatever the older process and others left.
def State.start (marker temp : Option (List UInt8)) : State :=
  ⟨marker, temp, .exists, .createDir⟩
end Code

section Ownership
variable {decode : List UInt8 → Except String RuntimeInstance} {instanceId : String}
variable {written : List UInt8} {newer : RuntimeInstance}

/-- What the newer process has written is where it belongs, and nobody is about to remove it. -/
structure Safe (written : List UInt8) (state : State) : Prop where
  prepared : state.newer = .rename → state.temp = some written
  placed : state.newer = .returned true →
    state.marker = some written ∧ state.older ≠ .removeFile

theorem step_safe {before after : State} (readsBack : decode written = .ok newer)
    (different : newer.instanceId ≠ instanceId) (safe : Safe written before)
    (taken : Step decode instanceId written before after) (apart : Apart before after) :
    Safe written after := by
  obtain ⟨prepared, placed⟩ := safe
  cases taken with
  | looks here =>
    refine ⟨prepared, fun done => ⟨(placed done).1, ?_⟩⟩
    split <;> exact nofun
  | reads here =>
    refine ⟨prepared, fun done => ⟨(placed done).1, ?_⟩⟩
    simp [(placed done).1, afterRead, readsBack, different]
  | removes here => exact ⟨prepared, fun done => absurd here (placed done).2⟩
  | gives here => exact ⟨prepared, fun done => ⟨(placed done).1, nofun⟩⟩
  | creates here => exact ⟨nofun, nofun⟩
  | writes here => exact ⟨fun _ => rfl, nofun⟩
  | renames here =>
    exact ⟨nofun, fun done => ⟨prepared here, fun removing => apart removing here done⟩⟩
  | fails here => exact ⟨nofun, nofun⟩
end Ownership

def oldInstance : RuntimeInstance := ⟨1, "older", 41, 1700946272, "127.0.0.1:31702", 60, "0.1.0"⟩

def newInstance : RuntimeInstance := { oldInstance with instanceId := "newer", pid := 42 }

-- Two documents are told apart by their first byte.
def sampleDecode : List UInt8 → Except String RuntimeInstance
  | [1] => .ok oldInstance
  | [2] => .ok newInstance
  | _ => .error "expected value"

-- The older process comes after the rename and sees that the marker is not its own.
theorem late_removal :
    Run sampleDecode "older" [2] Apart (.start (some [1]) none)
      ⟨some [2], none, .returned false, .returned true⟩ :=
  .head ⟨.creates rfl, nofun⟩ <| .head ⟨.writes rfl, nofun⟩ <| .head ⟨.renames rfl, nofun⟩ <|
    .head ⟨.looks rfl, nofun⟩ <| .single ⟨.reads rfl, nofun⟩
end Misaka.RuntimeMarker
