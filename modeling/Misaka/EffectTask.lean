import Mathlib

/-!
Asynchronous code as a tree of calls to its environment. A task ends with a
value, ends with an error, or performs one operation and continues with the
answer. What an operation does is not part of the task: a step relation over
some state gives it a meaning, so that one task can be run alone against a
node, against a log of everything the environment answered, or interleaved
with other tasks over a shared state.
-/

namespace Misaka.EffectTask
variable {Op : Type} {Res : Op → Type} {Err Other Val New State : Type}
variable {step : State → (op : Op) → Res op → State → Prop}
variable {guard : State → Op → Prop} {post : State → Val → Prop} {failed : State → Err → Prop}

inductive Task (Op : Type) (Res : Op → Type) (Err Val : Type) where
  | done (value : Val)
  | fail (error : Err)
  | call (op : Op) (next : Res op → Task Op Res Err Val)

def Task.bind : Task Op Res Err Val → (Val → Task Op Res Err New) → Task Op Res Err New
  | .done value, rest => rest value
  | .fail error, _ => .fail error
  | .call op next, rest => .call op fun result => (next result).bind rest

instance : Monad (Task Op Res Err) where
  pure := .done
  bind := .bind

def perform (op : Op) : Task Op Res Err (Res op) := .call op .done

def ofExcept : Except Err Val → Task Op Res Err Val
  | .ok value => .done value
  | .error error => .fail error

-- `result.map_err(change)?`.
def orError (change : Other → Err) : Except Other Val → Task Op Res Err Val
  | .ok value => .done value
  | .error error => .fail (change error)

def ensure (condition : Bool) (error : Err) : Task Op Res Err Unit :=
  if condition then .done () else .fail error

def orFail (value : Option Val) (error : Err) : Task Op Res Err Val :=
  match value with
  | some found => .done found
  | none => .fail error

-- Rust's `map_err`: the operations performed stay the same.
def mapError (change : Err → Other) : Task Op Res Err Val → Task Op Res Other Val
  | .done value => .done value
  | .fail error => .fail (change error)
  | .call op next => .call op fun result => mapError change (next result)

-- A result inspected instead of propagated: the task itself no longer fails.
def attempt : Task Op Res Err Val → Task Op Res Other (Except Err Val)
  | .done value => .done (.ok value)
  | .fail error => .done (.error error)
  | .call op next => .call op fun result => attempt (next result)

/-- The task with its operations as part of a larger vocabulary. -/
def lift {Op' : Type} {Res' : Op' → Type} (name : Op → Op')
    (answer : (op : Op) → Res' (name op) → Res op) : Task Op Res Err Val → Task Op' Res' Err Val
  | .done value => .done value
  | .fail error => .fail error
  | .call op next => .call (name op) fun result => lift name answer (next (answer op result))

def forEach {Item : Type} : List Item → (Item → Task Op Res Err Unit) → Task Op Res Err Unit
  | [], _ => .done ()
  | item :: rest, body => body item >>= fun _ => forEach rest body

@[simp] theorem done_bind (value : Val) (rest : Val → Task Op Res Err New) :
    (Task.done value : Task Op Res Err Val) >>= rest = rest value := rfl

@[simp] theorem fail_bind (error : Err) (rest : Val → Task Op Res Err New) :
    (Task.fail error : Task Op Res Err Val) >>= rest = .fail error := rfl

@[simp] theorem call_bind (op : Op) (next : Res op → Task Op Res Err Val)
    (rest : Val → Task Op Res Err New) :
    Task.call op next >>= rest = .call op fun result => next result >>= rest := rfl

@[simp] theorem pure_is_done (value : Val) :
    (pure value : Task Op Res Err Val) = .done value := rfl

instance : LawfulMonad (Task Op Res Err) := LawfulMonad.mk' _
  (by
    intro Val task
    induction task with
    | done value | fail error => rfl
    | call op next ih => exact congrArg (Task.call op) (funext ih))
  (fun _ _ => rfl)
  (by
    intro Val Mid New task first second
    induction task with
    | done value | fail error => rfl
    | call op next ih => exact congrArg (Task.call op) (funext ih))

@[simp] theorem or_error_ok (change : Other → Err) (value : Val) :
    (orError change (.ok value) : Task Op Res Err Val) = .done value := rfl

@[simp] theorem ensure_true (error : Err) :
    (ensure true error : Task Op Res Err Unit) = .done () := rfl

@[simp] theorem ensure_false (error : Err) :
    (ensure false error : Task Op Res Err Unit) = .fail error := rfl

@[simp] theorem or_fail_some (value : Val) (error : Err) :
    (orFail (some value) error : Task Op Res Err Val) = .done value := rfl

@[simp] theorem map_error_done (change : Err → Other) (value : Val) :
    mapError change (.done value : Task Op Res Err Val) = .done value := rfl

variable {task : Task Op Res Err Val}

/-! `Holds` is the weakest precondition of a task. The guard is owed at every
operation the task is about to perform, whatever happens to it afterwards, so
it speaks about interrupted runs as well as about finished ones. -/
section Preconditions

def Holds (step : State → (op : Op) → Res op → State → Prop) (guard : State → Op → Prop) :
    Task Op Res Err Val → (State → Val → Prop) → (State → Err → Prop) → State → Prop
  | .done value, post, _, state => post state value
  | .fail error, _, failed, state => failed state error
  | .call op next, post, failed, state =>
    guard state op ∧ ∀ result after, step state op result after →
      Holds step guard (next result) post failed after

variable {state : State}

@[simp] theorem holds_done (value : Val) :
    Holds step guard (.done value) post failed state ↔ post state value := Iff.rfl

@[simp] theorem holds_fail (error : Err) :
    Holds step guard (.fail error) post failed state ↔ failed state error := Iff.rfl

@[simp] theorem holds_call (op : Op) (next : Res op → Task Op Res Err Val) :
    Holds step guard (.call op next) post failed state ↔
      guard state op ∧ ∀ result after, step state op result after →
        Holds step guard (next result) post failed after := Iff.rfl

@[simp] theorem holds_pure (value : Val) :
    Holds step guard (pure value) post failed state ↔ post state value := Iff.rfl

@[simp] theorem holds_bind (task : Task Op Res Err New) (rest : New → Task Op Res Err Val) :
    Holds step guard (task >>= rest) post failed state ↔
      Holds step guard task (fun middle value => Holds step guard (rest value) post failed middle)
        failed state := by
  induction task generalizing state with
  | done value | fail error => exact Iff.rfl
  | call op next ih => simp only [call_bind, holds_call, ih]

@[simp] theorem holds_ensure (condition : Bool) (error : Err) {post : State → Unit → Prop} :
    Holds step guard (ensure condition error) post failed state ↔
      (condition = true → post state ()) ∧ (condition = false → failed state error) := by
  cases condition <;> simp [ensure]

@[simp] theorem holds_or_fail (value : Option Val) (error : Err) :
    Holds step guard (orFail value error) post failed state ↔
      (∀ found, value = some found → post state found) ∧ (value = none → failed state error) := by
  cases value <;> simp [orFail]

@[simp] theorem holds_of_except (value : Except Err Val) :
    Holds step guard (ofExcept value) post failed state ↔
      (∀ found, value = .ok found → post state found) ∧
        (∀ error, value = .error error → failed state error) := by
  cases value <;> simp [ofExcept]

@[simp] theorem holds_or_error (change : Other → Err) (value : Except Other Val) :
    Holds step guard (orError change value) post failed state ↔
      (∀ found, value = .ok found → post state found) ∧
        (∀ error, value = .error error → failed state (change error)) := by
  cases value <;> simp [orError]

@[simp] theorem holds_map_error (change : Err → Other) (task : Task Op Res Err Val)
    {failed : State → Other → Prop} :
    Holds step guard (mapError change task) post failed state ↔
      Holds step guard task post (fun middle error => failed middle (change error)) state := by
  induction task generalizing state with
  | done value | fail error => exact Iff.rfl
  | call op next ih => simp only [mapError, holds_call, ih]

@[simp] theorem holds_attempt (task : Task Op Res Err Val)
    {post : State → Except Err Val → Prop} {failed : State → Other → Prop} :
    Holds step guard (attempt task) post failed state ↔
      Holds step guard task (fun middle value => post middle (.ok value))
        (fun middle error => post middle (.error error)) state := by
  induction task generalizing state with
  | done value | fail error => exact Iff.rfl
  | call op next ih => simp only [attempt, holds_call, ih]

variable {post' : State → Val → Prop} {failed' : State → Err → Prop}

theorem holds_mono (proved : Holds step guard task post failed state)
    (onValue : ∀ after value, post after value → post' after value)
    (onError : ∀ after error, failed after error → failed' after error) :
    Holds step guard task post' failed' state := by
  induction task generalizing state with
  | done value => exact onValue _ _ proved
  | fail error => exact onError _ _ proved
  | call op next ih =>
    exact ⟨proved.1, fun result after taken => ih result (proved.2 result after taken)⟩

theorem holds_perform (op : Op) {post : State → Res op → Prop} :
    Holds step guard (perform op : Task Op Res Err (Res op)) post failed state ↔
      guard state op ∧ ∀ result after, step state op result after → post after result := Iff.rfl

theorem holds_trivial (task : Task Op Res Err Val) :
    Holds step (fun _ _ => True) task (fun _ _ => True) (fun _ _ => True) state := by
  induction task generalizing state with
  | done value | fail error => trivial
  | call op next ih => exact ⟨trivial, fun result after _ => ih result⟩

variable {guard' : State → Op → Prop}

theorem holds_and (left : Holds step guard task post failed state)
    (right : Holds step guard' task post' failed' state) :
    Holds step (fun middle op => guard middle op ∧ guard' middle op) task
      (fun after value => post after value ∧ post' after value)
      (fun after error => failed after error ∧ failed' after error) state := by
  induction task generalizing state with
  | done value | fail error => exact ⟨left, right⟩
  | call op next ih =>
    exact ⟨⟨left.1, right.1⟩, fun result after taken =>
      ih result (left.2 result after taken) (right.2 result after taken)⟩

theorem holds_guard_mono (proved : Holds step guard task post failed state)
    (weaker : ∀ middle op, guard middle op → guard' middle op) :
    Holds step guard' task post failed state := by
  induction task generalizing state with
  | done value | fail error => exact proved
  | call op next ih =>
    exact ⟨weaker _ _ proved.1, fun result after taken => ih result (proved.2 result after taken)⟩

-- The loop rule: one pass of the body keeps the invariant, so all passes do.
theorem holds_for_each {Item : Type} (items : List Item) (body : Item → Task Op Res Err Unit)
    (invariant : State → Prop) (start : invariant state)
    (pass : ∀ item ∈ items, ∀ before, invariant before →
      Holds step guard (body item) (fun after _ => invariant after) failed before) :
    Holds step guard (forEach items body) (fun after _ => invariant after) failed state := by
  induction items generalizing state with
  | nil => exact start
  | cons item rest ih =>
    rw [forEach, holds_bind]
    refine holds_mono (pass item List.mem_cons_self state start) ?_ (fun _ _ kept => kept)
    intro after _ kept
    exact ih kept (fun next member => pass next (List.mem_cons_of_mem item member))
end Preconditions

/-! Runs. `Reaches` follows one task through any number of its operations; the
guard and the postconditions of `Holds` are what such a run can rely on. -/
section Runs

inductive Reaches (step : State → (op : Op) → Res op → State → Prop) :
    Task Op Res Err Val → State → Task Op Res Err Val → State → Prop where
  | here (task : Task Op Res Err Val) (state : State) : Reaches step task state task state
  | next {op : Op} {next : Res op → Task Op Res Err Val} {before middle after : State}
      {result : Res op} {final : Task Op Res Err Val} (taken : step before op result middle)
      (rest : Reaches step (next result) middle final after) :
      Reaches step (.call op next) before final after

variable {final : Task Op Res Err Val} {before after : State}

theorem holds_reaches (proved : Holds step guard task post failed before)
    (run : Reaches step task before final after) :
    Holds step guard final post failed after := by
  induction run with
  | here => exact proved
  | next taken _ ih => exact ih (proved.2 _ _ taken)

variable {state : State}

/-- Where every guarded operation can be answered, some run comes to an end. -/
theorem holds_ends (able : ∀ state op, guard state op → ∃ result after, step state op result after)
    (proved : Holds step guard task post failed state) :
    ∃ outcome after, Reaches step task state (ofExcept outcome) after := by
  induction task generalizing state with
  | done value => exact ⟨.ok value, state, .here _ _⟩
  | fail error => exact ⟨.error error, state, .here _ _⟩
  | call op next ih =>
    obtain ⟨result, middle, taken⟩ := able state op proved.1
    obtain ⟨outcome, after, run⟩ := ih result (proved.2 result middle taken)
    exact ⟨outcome, after, .next taken run⟩

variable {middle : State}

theorem reaches_snoc {op : Op} {next : Res op → Task Op Res Err Val} {result : Res op}
    (run : Reaches step task before (.call op next) middle) (taken : step middle op result after) :
    Reaches step task before (next result) after := by
  generalize equal : Task.call op next = final at run
  induction run with
  | here => subst equal; exact .next taken (.here _ _)
  | next first _ ih => exact .next first (ih taken equal)

theorem reaches_mono {step' : State → (op : Op) → Res op → State → Prop}
    (weaker : ∀ state op result next, step state op result next → step' state op result next)
    (run : Reaches step task before final after) : Reaches step' task before final after := by
  induction run with
  | here => exact .here _ _
  | next taken _ ih => exact .next (weaker _ _ _ _ taken) ih

theorem reaches_trans {task middle : Task Op Res Err Val} {between : State}
    (first : Reaches step task before middle between)
    (second : Reaches step middle between final after) : Reaches step task before final after := by
  induction first with
  | here => exact second
  | next taken _ ih => exact .next taken (ih second)

-- A run performs no marked operation, or comes to one.
theorem reaches_first (marked : Op → Prop) (run : Reaches step task before final after) :
    Reaches (fun state op result next => step state op result next ∧ ¬ marked op) task before final
      after ∨
    ∃ op next middle, marked op ∧ Reaches step task before (.call op next) middle ∧
      Reaches step (.call op next) middle final after := by
  induction run with
  | here => exact .inl (.here _ _)
  | @next op next before _ _ _ _ taken rest ih =>
    by_cases here : marked op
    · exact .inr ⟨op, next, before, here, .here _ _, .next taken rest⟩
    · rcases ih with unmarked | ⟨first, later, middle, mark, reached, left⟩
      · exact .inl (.next ⟨taken, here⟩ unmarked)
      · exact .inr ⟨first, later, middle, mark, .next taken reached, left⟩

variable {rest : New → Task Op Res Err Val}

-- Runs of the parts give a run of the whole.
theorem reaches_bind {task : Task Op Res Err New} {value : New}
    (first : Reaches step task before (.done value) middle)
    (second : Reaches step (rest value) middle final after) :
    Reaches step (task >>= rest) before final after := by
  generalize ended : Task.done value = finished at first
  induction first with
  | here => subst ended; exact second
  | next taken _ ih => exact .next taken (ih second ended)

theorem reaches_within {task stopped : Task Op Res Err New}
    (run : Reaches step task before stopped after) :
    Reaches step (task >>= rest) before (stopped >>= rest) after := by
  induction run with
  | here => exact .here _ _
  | next taken _ ih => exact .next taken ih

-- A run of the whole is still in the first part, or has left it with a value.
theorem reaches_bind_cases {task : Task Op Res Err New}
    (run : Reaches step (task >>= rest) before final after) :
    (∃ stopped, Reaches step task before stopped after) ∨
      ∃ value middle, Reaches step task before (.done value) middle ∧
        Reaches step (rest value) middle final after := by
  induction task generalizing before with
  | done value => exact .inr ⟨value, before, .here _ _, run⟩
  | fail error =>
    cases run with
    | here => exact .inl ⟨_, .here _ _⟩
  | call op next ih =>
    cases run with
    | here => exact .inl ⟨_, .here _ _⟩
    | next taken run =>
      rcases ih _ run with ⟨stopped, first⟩ | ⟨value, middle, first, second⟩
      · exact .inl ⟨stopped, .next taken first⟩
      · exact .inr ⟨value, middle, .next taken first, second⟩

variable {value : Val}

theorem reaches_map_error {change : Err → Other}
    (run : Reaches step task before (.done value) after) :
    Reaches step (mapError change task) before (.done value) after := by
  generalize ended : Task.done value = finished at run
  induction run with
  | here => subst ended; exact .here _ _
  | next taken _ ih => exact .next taken (ih ended)

theorem reaches_attempt (run : Reaches step task before (.done value) after) :
    Reaches step (attempt task : Task Op Res Other (Except Err Val)) before (.done (.ok value))
      after := by
  generalize ended : Task.done value = finished at run
  induction run with
  | here => subst ended; exact .here _ _
  | next taken _ ih => exact .next taken (ih ended)

-- What every operation and every end of a task can rely on holds now.
theorem holds_now {known : State → Prop}
    (proved : Holds step (fun middle _ => known middle) task (fun after _ => known after) (fun after
      _ => known after) state) :
    known state := by
  cases task with
  | done value | fail error => exact proved
  | call op next => exact proved.1

theorem reaches_done (proved : Holds step guard task post failed before)
    (run : Reaches step task before (.done value) after) : post after value :=
  holds_reaches proved run

end Runs

/-! An environment that answers every operation: the task then has one run, to
its end. -/
section Handlers

def Task.run (handler : State → (op : Op) → Res op × State) :
    Task Op Res Err Val → State → Except Err Val × State
  | .done value, state => (.ok value, state)
  | .fail error, state => (.error error, state)
  | .call op next, state => (next (handler state op).1).run handler (handler state op).2

variable {handler : State → (op : Op) → Res op × State}

def Answers (handler : State → (op : Op) → Res op × State)
    (step : State → (op : Op) → Res op → State → Prop) : Prop :=
  ∀ state op, step state op (handler state op).1 (handler state op).2

theorem run_reaches (answers : Answers handler step) (task : Task Op Res Err Val) (state : State) :
    Reaches step task state (ofExcept (task.run handler state).1) (task.run handler state).2 := by
  induction task generalizing state with
  | done value | fail error => exact .here _ _
  | call op next ih => exact .next (answers state op) (ih _ _)

/-- A task that cannot fail here ends with its postcondition. -/
theorem holds_run (answers : Answers handler step) {state : State}
    (proved : Holds step guard task post (fun _ _ => False) state) :
    ∃ value, (task.run handler state).1 = .ok value ∧ post (task.run handler state).2 value := by
  have ended := holds_reaches proved (run_reaches answers task state)
  cases outcome : (task.run handler state).1 with
  | ok value =>
    rw [outcome] at ended
    exact ⟨value, rfl, ended⟩
  | error error =>
    rw [outcome] at ended
    exact ended.elim
end Handlers

/-! A trace keeps every operation a task performed, newest first, with the
state each one met and left. Nothing relates the state one operation leaves to
the state the next one meets, so a trace covers every interleaving with other
work on the same state. -/
section Traces

structure Event (Op : Type) (Res : Op → Type) (State : Type) where
  before : State
  op : Op
  result : Res op
  after : State

def traceStep (step : State → (op : Op) → Res op → State → Prop)
    (trace : List (Event Op Res State)) (op : Op) (result : Res op)
    (longer : List (Event Op Res State)) : Prop :=
  ∃ before after, step before op result after ∧ longer = ⟨before, op, result, after⟩ :: trace

def Traces (step : State → (op : Op) → Res op → State → Prop) (task : Task Op Res Err Val)
    (trace : List (Event Op Res State)) (final : Task Op Res Err Val) : Prop :=
  Reaches (traceStep step) task [] final trace

variable {guard : List (Event Op Res State) → Op → Prop}
variable {post : List (Event Op Res State) → Val → Prop}
variable {failed : List (Event Op Res State) → Err → Prop}
variable {trace : List (Event Op Res State)}

-- The operation was performed and answered so, at some point of the trace.
def Answered (trace : List (Event Op Res State)) (op : Op) (result : Res op) : Prop :=
  ∃ before after, ⟨before, op, result, after⟩ ∈ trace

variable {longer : List (Event Op Res State)} {op : Op} {result : Res op}

theorem answered_suffix (kept : trace <:+ longer) (answered : Answered trace op result) :
    Answered longer op result := by
  obtain ⟨before, after, member⟩ := answered
  exact ⟨before, after, kept.subset member⟩

-- Some operation met a state with the property.
def Met (trace : List (Event Op Res State)) (known : State → Prop) : Prop :=
  ∃ event ∈ trace, known event.before

variable {known : State → Prop}

theorem met_suffix (kept : trace <:+ longer) (met : Met trace known) :
    Met longer known := by
  obtain ⟨event, member, holds⟩ := met
  exact ⟨event, kept.subset member, holds⟩

variable {event : Event Op Res State}

theorem met_head (holds : known event.before) :
    Met (event :: trace) known :=
  ⟨event, List.mem_cons_self, holds⟩

@[simp] theorem holds_trace_perform (op : Op)
    {post : List (Event Op Res State) → Res op → Prop} :
    Holds (traceStep step) guard (perform op : Task Op Res Err (Res op)) post failed trace ↔
      guard trace op ∧ ∀ result before after, step before op result after →
        post (⟨before, op, result, after⟩ :: trace) result := by
  constructor
  · rintro ⟨owed, rest⟩
    exact ⟨owed, fun result before after taken => rest result _ ⟨before, after, taken, rfl⟩⟩
  · rintro ⟨owed, rest⟩
    refine ⟨owed, ?_⟩
    rintro result _ ⟨before, after, taken, rfl⟩
    exact rest result before after taken

theorem answered_head {before after : State} :
    Answered (⟨before, op, result, after⟩ :: trace) op result :=
  ⟨before, after, List.mem_cons_self⟩

variable {final : Task Op Res Err Val}

-- One step of a concrete run, for building traces.
theorem reaches_perform {rest : Res op → Task Op Res Err Val} {before after : State}
    (taken : step before op result after)
    (run : Reaches (traceStep step) (rest result) (⟨before, op, result,
      after⟩ :: trace) final longer) :
    Reaches (traceStep step) (perform op >>= rest) trace final longer :=
  .next ⟨before, after, taken, rfl⟩ run

theorem reaches_suffix (run : Reaches (traceStep step) task trace final longer) :
    trace <:+ longer := by
  induction run with
  | here => exact List.suffix_refl _
  | next taken _ ih =>
    obtain ⟨before, after, _, rfl⟩ := taken
    exact (List.suffix_cons _ _).trans ih

theorem reaches_idle (run : Reaches (traceStep step) task trace final trace) : task = final := by
  cases run with
  | here => rfl
  | next taken rest =>
    obtain ⟨before, after, _, rfl⟩ := taken
    have shorter := (reaches_suffix rest).length_le
    rw [List.length_cons] at shorter
    omega

/-- The newest event of a run was its last step. -/
theorem reaches_unsnoc {earlier : List (Event Op Res State)}
    (run : Reaches (traceStep step) task trace final (event :: earlier))
    (grown : trace <:+ earlier) :
    ∃ next, Reaches (traceStep step) task trace (.call event.op next) earlier ∧
      step event.before event.op event.result event.after ∧ next event.result = final := by
  generalize reached : event :: earlier = longer at run
  induction run with
  | here =>
    subst reached
    have shorter := grown.length_le
    rw [List.length_cons] at shorter
    omega
  | @next op next current middle _ result _ taken rest ih =>
    subst reached
    obtain ⟨before, after, performed, rfl⟩ := taken
    rcases List.suffix_cons_iff.mp (reaches_suffix rest) with last | kept
    · cases last
      exact ⟨next, .here _ _, performed, reaches_idle rest⟩
    · obtain ⟨later, run, stepped, finished⟩ := ih kept rfl
      exact ⟨later, .next ⟨before, after, performed, rfl⟩ run, stepped, finished⟩

-- A run passes through every point of its trace.
theorem reaches_split {new middle : List (Event Op Res State)}
    (run : Reaches (traceStep step) task trace final (new ++ middle)) (grown : trace <:+ middle) :
    ∃ between, Reaches (traceStep step) task trace between middle ∧
      Reaches (traceStep step) between middle final (new ++ middle) := by
  induction new generalizing final with
  | nil => exact ⟨final, run, .here _ _⟩
  | cons event later ih =>
    obtain ⟨next, before, taken, rfl⟩ :=
      reaches_unsnoc run (grown.trans (List.suffix_append _ _))
    obtain ⟨between, first, second⟩ := ih before
    exact ⟨between, first, reaches_snoc second ⟨_, _, taken, rfl⟩⟩

def Event.label (event : Event Op Res State) : (op : Op) × Res op := ⟨event.op, event.result⟩

/-- A task sees only the answers to its operations: the same answers over other
states give the same run. -/
theorem reaches_relabel {step' : Other → (op : Op) → Res op → Other → Prop}
    {new : List (Event Op Res State)} {new' trace' : List (Event Op Res Other)}
    (run : Reaches (traceStep step) task trace final (new ++ trace))
    (same : new'.map Event.label = new.map Event.label)
    (steps : ∀ event ∈ new', step' event.before event.op event.result event.after) :
    Reaches (traceStep step') task trace' final (new' ++ trace') := by
  induction new generalizing new' final with
  | nil =>
    obtain rfl := reaches_idle run
    obtain rfl := List.map_eq_nil_iff.mp same
    exact .here _ _
  | cons event earlier ih =>
    cases new' with
    | nil => cases same
    | cons event' earlier' =>
      obtain ⟨next, before, _, rfl⟩ := reaches_unsnoc run (List.suffix_append _ _)
      obtain ⟨labelled, rest⟩ := List.cons.inj same
      have taken := steps event' List.mem_cons_self
      have kept := fun other member => steps other (List.mem_cons_of_mem event' member)
      obtain ⟨left', op', result', right'⟩ := event'
      cases labelled
      exact reaches_snoc (ih before rest kept) ⟨left', right', taken, rfl⟩

-- Each event is one step of the model and met its guard when it was performed.
def Justified (step : State → (op : Op) → Res op → State → Prop)
    (guard : List (Event Op Res State) → Op → Prop) : List (Event Op Res State) → Prop
  | [] => True
  | event :: earlier =>
    (guard earlier event.op ∧ step event.before event.op event.result event.after) ∧
      Justified step guard earlier

theorem reaches_justified (proved : Holds (traceStep step) guard task post failed trace)
    (justified : Justified step guard trace)
    (run : Reaches (traceStep step) task trace final longer) : Justified step guard longer := by
  induction run with
  | here => exact justified
  | next taken _ ih =>
    obtain ⟨before, after, performed, rfl⟩ := taken
    exact ih (proved.2 _ _ ⟨before, after, performed, rfl⟩) ⟨⟨proved.1, performed⟩, justified⟩

variable {later earlier : List (Event Op Res State)}

theorem justified_at (justified : Justified step guard (later ++ event :: earlier)) :
    guard earlier event.op ∧ step event.before event.op event.result event.after := by
  induction later with
  | nil => exact justified.1
  | cons newest later ih => exact ih justified.2

/-- Every operation in a trace was performed when the guard held of what had
happened before it. -/
theorem traced_event_guarded (proved : Holds (traceStep step) guard task post failed [])
    (run : Traces step task trace final) (split : trace = later ++ event :: earlier) :
    guard earlier event.op ∧ step event.before event.op event.result event.after := by
  subst split
  exact justified_at (reaches_justified proved trivial run)
end Traces

/-! The operations a task can perform at all, whatever it is answered. -/
section Vocabulary

def Only (allowed : Op → Prop) : Task Op Res Err Val → Prop
  | .done _ => True
  | .fail _ => True
  | .call op next => allowed op ∧ ∀ result, Only allowed (next result)

variable {allowed : Op → Prop}

@[simp] theorem only_done (value : Val) :
    Only allowed (.done value : Task Op Res Err Val) ↔ True := Iff.rfl

@[simp] theorem only_pure (value : Val) :
    Only allowed (pure value : Task Op Res Err Val) ↔ True := Iff.rfl

@[simp] theorem only_fail (error : Err) :
    Only allowed (.fail error : Task Op Res Err Val) ↔ True := Iff.rfl

theorem only_call {op : Op} {next : Res op → Task Op Res Err Val}
    (proved : Only allowed (.call op next)) :
    allowed op ∧ ∀ result, Only allowed (next result) := proved

variable {rest : Val → Task Op Res Err New}

@[simp] theorem only_perform (op : Op) :
    Only allowed (perform op : Task Op Res Err (Res op)) ↔ allowed op := by
  simp [perform, Only]

@[simp] theorem only_ensure (condition : Bool) (error : Err) :
    Only allowed (ensure condition error : Task Op Res Err Unit) ↔ True := by
  cases condition <;> simp [ensure]

@[simp] theorem only_or_fail (value : Option Val) (error : Err) :
    Only allowed (orFail value error : Task Op Res Err Val) ↔ True := by
  cases value <;> simp [orFail]

@[simp] theorem only_of_except (value : Except Err Val) :
    Only allowed (ofExcept value : Task Op Res Err Val) ↔ True := by
  cases value <;> simp [ofExcept]

@[simp] theorem only_or_error (change : Other → Err) (value : Except Other Val) :
    Only allowed (orError change value : Task Op Res Err Val) ↔ True := by
  cases value <;> simp [orError]

theorem only_bind (first : Only allowed task) (second : ∀ value, Only allowed (rest value)) :
    Only allowed (task >>= rest) := by
  induction task with
  | done value => exact second value
  | fail error => trivial
  | call op next ih => exact ⟨first.1, fun result => ih result (first.2 result)⟩

-- What a check decided is known to the rest of the task.
theorem only_perform_bind {op : Op} {rest : Res op → Task Op Res Err New} (fits : allowed op)
    (later : ∀ result, Only allowed (rest result)) : Only allowed (perform op >>= rest) :=
  only_bind ((only_perform op).mpr fits) later

theorem only_ensure_bind {condition : Bool} {error : Err} {rest : Unit → Task Op Res Err New}
    (passed : condition = true → Only allowed (rest ())) :
    Only allowed (ensure condition error >>= rest) := by
  cases condition with
  | true => exact passed rfl
  | false => trivial

theorem only_or_error_bind {change : Other → Err} {value : Except Other Val}
    (passed : ∀ found, value = .ok found → Only allowed (rest found)) :
    Only allowed (orError change value >>= rest) := by
  cases value with
  | ok found => exact passed found rfl
  | error error => trivial

theorem only_map_error {change : Err → Other} (proved : Only allowed task) :
    Only allowed (mapError change task) := by
  induction task with
  | done value | fail error => trivial
  | call op next ih => exact ⟨proved.1, fun result => ih result (proved.2 result)⟩

theorem only_attempt (proved : Only allowed task) :
    Only allowed (attempt task : Task Op Res Other (Except Err Val)) := by
  induction task with
  | done value | fail error => trivial
  | call op next ih => exact ⟨proved.1, fun result => ih result (proved.2 result)⟩

theorem only_for_each {Item : Type} {items : List Item} {body : Item → Task Op Res Err Unit}
    (pass : ∀ item ∈ items, Only allowed (body item)) : Only allowed (forEach items body) := by
  induction items with
  | nil => trivial
  | cons item rest ih =>
    exact only_bind (pass item List.mem_cons_self)
      (fun _ => ih (fun next member => pass next (List.mem_cons_of_mem item member)))

theorem only_mono {wider : Op → Prop} (proved : Only allowed task)
    (weaker : ∀ op, allowed op → wider op) : Only wider task := by
  induction task with
  | done value | fail error => trivial
  | call op next ih => exact ⟨weaker op proved.1, fun result => ih result (proved.2 result)⟩

theorem only_any (task : Task Op Res Err Val) : Only (fun _ => True) task := by
  induction task with
  | done value | fail error => trivial
  | call op next ih => exact ⟨trivial, ih⟩

theorem only_lift {Op' : Type} {Res' : Op' → Type} {name : Op → Op'}
    {answer : (op : Op) → Res' (name op) → Res op} {wider : Op' → Prop} (proved : Only allowed task)
    (named : ∀ op, allowed op → wider (name op)) : Only wider (lift name answer task) := by
  induction task with
  | done value | fail error => trivial
  | call op next ih => exact ⟨named op proved.1, fun result => ih _ (proved.2 _)⟩

/-- A fact about every operation of a task together with what follows it. -/
def Everywhere (holds : (op : Op) → (Res op → Task Op Res Err Val) → Prop) :
    Task Op Res Err Val → Prop
  | .done _ => True
  | .fail _ => True
  | .call op next => holds op next ∧ ∀ result, Everywhere holds (next result)

theorem everywhere_bind {holds : (op : Op) → (Res op → Task Op Res Err New) → Prop}
    (first : Only allowed task) (free : ∀ op next, allowed op → holds op next)
    (second : ∀ value, Everywhere holds (rest value)) : Everywhere holds (task >>= rest) := by
  induction task with
  | done value => exact second value
  | fail error => trivial
  | call op next ih => exact ⟨free op _ first.1, fun result => ih result (first.2 result)⟩

theorem everywhere_only {holds : (op : Op) → (Res op → Task Op Res Err Val) → Prop}
    (proved : Only allowed task) (free : ∀ op next, allowed op → holds op next) :
    Everywhere holds task := by
  induction task with
  | done value | fail error => trivial
  | call op next ih => exact ⟨free op next proved.1, fun result => ih result (proved.2 result)⟩

variable {final : Task Op Res Err Val}

-- What every operation of the vocabulary keeps, a run keeps.
theorem reaches_keeps (known : State → Prop) {before after : State} (vocabulary : Only allowed task)
    (kept : ∀ state op result next, allowed op → step state op result next → known state →
      known next) (run : Reaches step task before final after) (start : known before) :
    known after := by
  induction run with
  | here => exact start
  | next taken _ ih => exact ih (vocabulary.2 _) (kept _ _ _ _ vocabulary.1 taken start)

variable {state : State}

theorem holds_keeps {known : State → Prop} (vocabulary : Only allowed task)
    (guarded : ∀ state op, allowed op → known state → guard state op)
    (kept : ∀ state op result next, allowed op → step state op result next → known state →
      known next) (start : known state) :
    Holds step guard task (fun after _ => known after) (fun after _ => known after) state := by
  induction task generalizing state with
  | done value | fail error => exact start
  | call op next ih =>
    refine ⟨guarded state op vocabulary.1 start, fun result after taken => ?_⟩
    exact ih result (vocabulary.2 result) (kept state op result after vocabulary.1 taken start)

section Growing
variable {trace : List (Event Op Res State)}
variable {guard : List (Event Op Res State) → Op → Prop}
variable {post : List (Event Op Res State) → Val → Prop}
variable {failed : List (Event Op Res State) → Err → Prop}

theorem holds_trace_grows (task : Task Op Res Err Val) :
    Holds (traceStep step) (fun longer _ => trace <:+ longer) task
      (fun longer _ => trace <:+ longer) (fun longer _ => trace <:+ longer) trace := by
  refine holds_keeps (only_any task) (fun _ _ _ kept => kept) ?_ (List.suffix_refl trace)
  rintro current op result _ _ ⟨before, after, _, rfl⟩ kept
  exact kept.trans (List.suffix_cons _ _)

-- A specification proved from a trace also says that the trace is still there.
theorem holds_growing (proved : Holds (traceStep step) guard task post failed trace) :
    Holds (traceStep step) (fun longer op => guard longer op ∧ trace <:+ longer) task
      (fun longer value => post longer value ∧ trace <:+ longer)
      (fun longer error => failed longer error ∧ trace <:+ longer) trace :=
  holds_and proved (holds_trace_grows task)

theorem holds_keeping_trace (proved : Holds (traceStep step) guard task post failed trace) :
    Holds (traceStep step) guard task (fun longer value => post longer value ∧ trace <:+ longer)
      (fun longer error => failed longer error ∧ trace <:+ longer) trace :=
  holds_guard_mono (holds_growing proved) (fun _ _ owed => owed.1)

end Growing

/-- A task whose operations change nothing and have fixed answers ends as its run
on those answers does. -/
theorem holds_answered (answers : (op : Op) → Res op) (vocabulary : Only allowed task)
    (guarded : ∀ op, allowed op → guard state op)
    (fixed : ∀ op result after, allowed op → step state op result after →
      result = answers op ∧ after = state) :
    Holds step guard task
      (fun after value => after = state ∧
        (task.run (fun known op => (answers op, known)) ()).1 = .ok value)
      (fun after error => after = state ∧
        (task.run (fun known op => (answers op, known)) ()).1 = .error error) state := by
  induction task with
  | done value | fail error => exact ⟨rfl, rfl⟩
  | call op next ih =>
    refine ⟨guarded op vocabulary.1, ?_⟩
    intro result after taken
    obtain ⟨rfl, rfl⟩ := fixed op result after vocabulary.1 taken
    exact ih _ (vocabulary.2 _)

-- The trace grew by operations of the vocabulary only.
def Extends (allowed : Op → Prop) (trace longer : List (Event Op Res State)) : Prop :=
  ∃ new, longer = new ++ trace ∧ ∀ event ∈ new, allowed event.op

variable {trace longer : List (Event Op Res State)}

theorem extends_suffix (extended : Extends allowed trace longer) : trace <:+ longer := by
  obtain ⟨new, rfl, _⟩ := extended
  exact List.suffix_append new trace

theorem extends_forall {known : Op → Prop} (extended : Extends allowed trace longer)
    (meets : ∀ op, allowed op → known op) (start : ∀ event ∈ trace, known event.op) :
    ∀ event ∈ longer, known event.op := by
  obtain ⟨new, rfl, vocabulary⟩ := extended
  intro event member
  rcases List.mem_append.mp member with member | member
  · exact meets _ (vocabulary event member)
  · exact start event member

variable {guard : List (Event Op Res State) → Op → Prop} {trace : List (Event Op Res State)}

/-- The frame rule: a task owes a guard that every operation in its vocabulary
meets, in every trace that extends the one it starts from. -/
theorem holds_of_only (vocabulary : Only allowed task)
    (meets : ∀ longer op, Extends allowed trace longer → allowed op → guard longer op) :
    Holds (traceStep step) guard task (fun longer _ => Extends allowed trace longer)
      (fun longer _ => Extends allowed trace longer) trace := by
  refine holds_keeps vocabulary ?_ ?_ ⟨[], rfl, fun _ member => absurd member List.not_mem_nil⟩
  · exact fun longer op permitted extended => meets longer op extended permitted
  · rintro _ op result _ permitted ⟨before, after, _, rfl⟩ ⟨new, rfl, earlier⟩
    exact ⟨_ :: new, rfl, List.forall_mem_cons.mpr ⟨permitted, earlier⟩⟩

/-- A specification holds under any guard the vocabulary meets. -/
theorem holds_guarded {post : List (Event Op Res State) → Val → Prop}
    {failed : List (Event Op Res State) → Err → Prop}
    (proved : Holds (traceStep step) (fun _ _ => True) task post failed trace)
    (vocabulary : Only allowed task)
    (meets : ∀ longer op, Extends allowed trace longer → allowed op → guard longer op) :
    Holds (traceStep step) guard task
      (fun longer value => post longer value ∧ Extends allowed trace longer)
      (fun longer error => failed longer error ∧ Extends allowed trace longer) trace :=
  holds_guard_mono (holds_and proved (holds_of_only vocabulary meets)) (fun _ _ owed => owed.2)

variable {event : Event Op Res State}

theorem traced_event_allowed (vocabulary : Only allowed task) (run : Traces step task trace final)
    (member : event ∈ trace) :
    allowed event.op ∧ step event.before event.op event.result event.after := by
  have owed : Holds (traceStep step) (fun _ op => allowed op) task
      (fun longer _ => Extends allowed [] longer) (fun longer _ => Extends allowed [] longer) [] :=
    holds_of_only vocabulary fun _ _ _ permitted => permitted
  obtain ⟨later, earlier, split⟩ := List.append_of_mem member
  exact traced_event_guarded owed run split

theorem traced_event_step (run : Traces step task trace final) (member : event ∈ trace) :
    step event.before event.op event.result event.after :=
  (traced_event_allowed (only_any task) run member).2
end Vocabulary

-- Past this point a task is opened by the rules above only.
attribute [irreducible] Holds Only
end Misaka.EffectTask
