import Misaka.EffectTask

/-!
Rely and guarantee for tasks that share a state. An operation need not happen at
once: it may take several pieces of work, and other tasks act between any two of
them. A task is secure if each of its operations has an assertion that its own
pieces of work keep and that the steps of others, as far as the task relies on
them, do not invalidate. Secure tasks stay secure in every interleaving whose
steps respect what each relies on.
-/

namespace Misaka.RelyGuarantee
open EffectTask
variable {Index Op : Type} {Res : Op → Type} {Err Val Work Shared Other : Type} {thread : Index}
variable {final : Index → Shared → Prop}

/-- What one operation does, piece by piece: a piece leaves work to be done, or it
is the last one and gives the result. A halt takes some tasks away. -/
structure Machine (Index Op : Type) (Res : Op → Type) (Err Work Shared : Type) where
  idle : Work
  cut : Err
  progress : Index → Shared → Work → (op : Op) → Work ⊕ Res op → Shared → Prop
  halts : (Index → Prop) → Shared → Shared → Prop

structure Crew (Index Op : Type) (Res : Op → Type) (Err Val Work Shared : Type) where
  shared : Shared
  task : Index → Task Op Res Err Val
  work : Index → Work

variable {machine : Machine Index Op Res Err Work Shared}
variable {before after : Crew Index Op Res Err Val Work Shared}

section Crews
variable [DecidableEq Index]

def Crew.start (machine : Machine Index Op Res Err Work Shared) (shared : Shared)
    (task : Index → Task Op Res Err Val) : Crew Index Op Res Err Val Work Shared :=
  ⟨shared, task, fun _ => machine.idle⟩

def Crew.advance (crew : Crew Index Op Res Err Val Work Shared) (thread : Index)
    (task : Task Op Res Err Val) (work : Work) (shared : Shared) :
    Crew Index Op Res Err Val Work Shared where
  shared := shared
  task := Function.update crew.task thread task
  work := Function.update crew.work thread work

/-- The actor is the thread that did a piece of work, and none for a halt. -/
inductive Step (machine : Machine Index Op Res Err Work Shared) :
    Option Index → Crew Index Op Res Err Val Work Shared →
      Crew Index Op Res Err Val Work Shared → Prop where
  | works {crew : Crew Index Op Res Err Val Work Shared} {thread : Index} {op : Op}
      {next : Res op → Task Op Res Err Val} {work : Work} {after : Shared}
      (running : crew.task thread = .call op next)
      (done : machine.progress thread crew.shared (crew.work thread) op (.inl work) after) :
      Step machine (some thread) crew (crew.advance thread (.call op next) work after)
  | finishes {crew : Crew Index Op Res Err Val Work Shared} {thread : Index} {op : Op}
      {next : Res op → Task Op Res Err Val} {result : Res op} {after : Shared}
      (running : crew.task thread = .call op next)
      (done : machine.progress thread crew.shared (crew.work thread) op (.inr result) after) :
      Step machine (some thread) crew (crew.advance thread (next result) machine.idle after)
  | halts {crew : Crew Index Op Res Err Val Work Shared} {gone : Index → Prop}
      [DecidablePred gone] {after : Shared} (left : machine.halts gone crew.shared after) :
      Step machine none crew
        ⟨after, fun thread => if gone thread then .fail machine.cut else crew.task thread,
          fun thread => if gone thread then machine.idle else crew.work thread⟩

theorem step_progress (taken : Step machine (some thread) before after) :
    ∃ op next outcome, before.task thread = .call op next ∧
      machine.progress thread before.shared (before.work thread) op outcome after.shared := by
  cases taken with
  | works running done | finishes running done => exact ⟨_, _, _, running, done⟩

theorem step_halted (taken : Step machine none before after) :
    ∃ gone, machine.halts gone before.shared after.shared ∧
      ∀ thread op next, after.task thread = .call op next → ¬ gone thread := by
  cases taken with
  | @halts _ gone _ shared left =>
    refine ⟨gone, left, ?_⟩
    intro thread op next running removed
    simp [removed] at running

def Run (machine : Machine Index Op Res Err Work Shared)
    (condition : Option Index → Crew Index Op Res Err Val Work Shared →
      Crew Index Op Res Err Val Work Shared → Prop) :
    Crew Index Op Res Err Val Work Shared → Crew Index Op Res Err Val Work Shared → Prop :=
  Relation.ReflTransGen fun before after =>
    ∃ actor, Step machine actor before after ∧ condition actor before after

/-- One thread goes on by itself. -/
theorem run_solo {condition : Option Index → Crew Index Op Res Err Val Work Shared →
      Crew Index Op Res Err Val Work Shared → Prop} {fits : Shared → Op → Prop}
    {crew : Crew Index Op Res Err Val Work Shared} {task : Task Op Res Err Val} {shared : Shared}
    (allowed : ∀ (before after : Crew Index Op Res Err Val Work Shared) op next,
      before.task thread = .call op next → fits before.shared op →
      condition (some thread) before after) (idle : crew.work thread = machine.idle)
    (run : Reaches (fun before op result after => fits before op ∧
      machine.progress thread before machine.idle op (.inr result) after) (crew.task thread)
      crew.shared task shared) :
    Run machine condition crew (crew.advance thread task machine.idle shared) := by
  generalize first : crew.task thread = program at run
  generalize opened : crew.shared = state at run
  induction run generalizing crew with
  | here task shared =>
    subst first opened
    have same : crew.advance thread (crew.task thread) machine.idle crew.shared = crew := by
      rw [← idle]
      simp [Crew.advance]
    rw [same]
    exact .refl
  | @next op next before middle after result final taken rest ih =>
    subst opened
    obtain ⟨fit, done⟩ := taken
    let moved := crew.advance thread (next result) machine.idle middle
    have step : Step machine (some thread) crew moved := .finishes first (idle.symm ▸ done)
    have onward : Run machine condition moved (moved.advance thread final machine.idle after) :=
      ih (by simp [moved, Crew.advance]) (by simp [moved, Crew.advance]) rfl
    have same : moved.advance thread final machine.idle after =
        crew.advance thread final machine.idle after := by
      simp [moved, Crew.advance]
    rw [same] at onward
    exact Relation.ReflTransGen.head
      ⟨some thread, step, allowed crew moved op next first fit⟩ onward
end Crews

/-! One task among others. -/
section Tasks
variable {New : Type}

/-- What a task expects of the steps of others while an operation is under way,
what its own steps do, and what is claimed at each of its operations. -/
structure Terms (Op Work Shared : Type) where
  rely : Op → Work → Shared → Shared → Prop
  guarantee : Shared → Shared → Prop
  guard : Op → Work → Shared → Prop

structure Sustains (machine : Machine Index Op Res Err Work Shared) (thread : Index)
    (terms : Terms Op Work Shared) (op : Op) (during : Work → Shared → Prop) : Prop where
  stable : ∀ {work before after}, during work before → terms.rely op work before after →
    during work after
  works : ∀ {work before left after}, during work before →
    machine.progress thread before work op (.inl left) after →
    during left after ∧ terms.guarantee before after
  finishes : ∀ {work before result after}, during work before →
    machine.progress thread before work op (.inr result) after → terms.guarantee before after
  guarded : ∀ {work state}, during work state → terms.guard op work state

def Secure (machine : Machine Index Op Res Err Work Shared) (thread : Index)
    (terms : Terms Op Work Shared) : Task Op Res Other Val → (Shared → Prop) →
      (Shared → Val → Prop) → (Shared → Other → Prop) → Prop
  | .done value, pre, post, _ => ∀ state, pre state → post state value
  | .fail error, pre, _, failed => ∀ state, pre state → failed state error
  | .call op next, pre, post, failed => ∃ during : Work → Shared → Prop,
      (∀ state, pre state → during machine.idle state) ∧
      Sustains machine thread terms op during ∧
      ∀ result, Secure machine thread terms (next result)
        (fun after => ∃ work before, during work before ∧
          machine.progress thread before work op (.inr result) after) post failed

variable {terms : Terms Op Work Shared} {pre : Shared → Prop}
variable {post : Shared → Val → Prop} {failed : Shared → Other → Prop}

theorem secure_done {value : Val} (proved : ∀ state, pre state → post state value) :
    Secure machine thread terms (.done value : Task Op Res Other Val) pre post failed := proved

variable {task : Task Op Res Other Val} {pre' : Shared → Prop}

theorem secure_mono {post' : Shared → Val → Prop} {failed' : Shared → Other → Prop}
    (proved : Secure machine thread terms task pre post failed)
    (weaker : ∀ state, pre' state → pre state)
    (onValue : ∀ state value, post state value → post' state value)
    (onError : ∀ state error, failed state error → failed' state error) :
    Secure machine thread terms task pre' post' failed' := by
  induction task generalizing pre pre' with
  | done value => exact fun state holds => onValue state value (proved state (weaker state holds))
  | fail error => exact fun state holds => onError state error (proved state (weaker state holds))
  | call op next ih =>
    obtain ⟨during, begins, sustained, rest⟩ := proved
    exact ⟨during, fun state holds => begins state (weaker state holds), sustained,
      fun result => ih result (rest result) fun _ holds => holds⟩

theorem secure_pre (proved : Secure machine thread terms task pre post failed)
    (weaker : ∀ state, pre' state → pre state) :
    Secure machine thread terms task pre' post failed :=
  secure_mono proved weaker (fun _ _ holds => holds) (fun _ _ holds => holds)

-- Where the task cannot get, nothing is owed.
theorem secure_unreached (never : ∀ state, ¬ pre state) :
    Secure machine thread terms task pre post failed := by
  induction task generalizing pre with
  | done value | fail error => exact fun state holds => absurd holds (never state)
  | call op next ih =>
    refine ⟨fun _ _ => False, fun state holds => never state holds, ?_, fun result => ?_⟩
    · constructor
      · intro _ _ _ impossible
        exact impossible.elim
      · intro _ _ _ _ impossible
        exact impossible.elim
      · intro _ _ _ _ impossible
        exact impossible.elim
      · intro _ _ impossible
        exact impossible.elim
    · apply ih
      rintro after ⟨_, _, impossible, _⟩
      exact impossible

variable {rest : New → Task Op Res Other Val}

theorem secure_bind {task : Task Op Res Other New} {middle : Shared → New → Prop}
    (first : Secure machine thread terms task pre middle failed)
    (second : ∀ value, Secure machine thread terms (rest value) (middle · value) post failed) :
    Secure machine thread terms (task >>= rest) pre post failed := by
  induction task generalizing pre with
  | done value => exact secure_pre (second value) first
  | fail error => exact first
  | call op next ih =>
    obtain ⟨during, begins, sustained, later⟩ := first
    exact ⟨during, begins, sustained, fun result => ih result (later result)⟩

/-- One operation, with the assertion that holds while it is under way. -/
theorem secure_perform {op : Op} {post : Shared → Res op → Prop} (during : Work → Shared → Prop)
    (begins : ∀ state, pre state → during machine.idle state)
    (sustained : Sustains machine thread terms op during)
    (ends : ∀ work before result after, during work before →
      machine.progress thread before work op (.inr result) after → post after result) :
    Secure machine thread terms (perform op : Task Op Res Other (Res op)) pre post failed := by
  refine ⟨during, begins, sustained, ?_⟩
  rintro result after ⟨work, before, holds, done⟩
  exact ends work before result after holds done

theorem secure_attempt {task : Task Op Res Err Val} {post : Shared → Except Err Val → Prop}
    (proved : Secure machine thread terms task pre (fun state value => post state (.ok value))
      (fun state error => post state (.error error))) :
    Secure machine thread terms (attempt task : Task Op Res Other (Except Err Val)) pre post
      failed := by
  induction task generalizing pre with
  | done value | fail error => exact proved
  | call op next ih =>
    obtain ⟨during, begins, sustained, later⟩ := proved
    exact ⟨during, begins, sustained, fun result => ih result (later result)⟩

variable {Cause : Type} {change : Cause → Other}

theorem secure_map_error {task : Task Op Res Cause Val}
    (proved : Secure machine thread terms task pre post
      (fun state error => failed state (change error))) :
    Secure machine thread terms (mapError change task) pre post failed := by
  induction task generalizing pre with
  | done value | fail error => exact proved
  | call op next ih =>
    obtain ⟨during, begins, sustained, later⟩ := proved
    exact ⟨during, begins, sustained, fun result => ih result (later result)⟩

theorem secure_or_error {value : Except Cause Val}
    (onValue : ∀ found, value = .ok found → ∀ state, pre state → post state found)
    (onError : ∀ error, value = .error error → ∀ state, pre state → failed state (change error)) :
    Secure machine thread terms (orError change value : Task Op Res Other Val) pre post
      failed := by
  cases value with
  | ok found => exact onValue found rfl
  | error error => exact onError error rfl

variable {condition : Bool} {error : Other}

theorem secure_ensure {post : Shared → Unit → Prop}
    (passes : condition = true → ∀ state, pre state → post state ())
    (refused : condition = false → ∀ state, pre state → failed state error) :
    Secure machine thread terms (ensure condition error : Task Op Res Other Unit) pre post
      failed := by
  cases condition with
  | true => exact passes rfl
  | false => exact refused rfl

-- What a check decided is known to the rest of the task.
theorem secure_ensure_bind {rest : Unit → Task Op Res Other Val}
    (refused : ∀ state, pre state → failed state error)
    (passed : condition = true → Secure machine thread terms (rest ()) pre post failed) :
    Secure machine thread terms (ensure condition error >>= rest) pre post failed := by
  cases condition with
  | true => exact passed rfl
  | false => exact refused

theorem secure_or_error_bind {value : Except Cause New}
    (refused : ∀ error, value = .error error → ∀ state, pre state → failed state (change error))
   
    (passed : ∀ found, value = .ok found → Secure machine thread terms (rest found) pre post failed) :
    Secure machine thread terms (orError change value >>= rest) pre post failed := by
  cases value with
  | ok found => exact passed found rfl
  | error error => exact refused error rfl

variable {allowed : Op → Prop}

/-- An assertion that every operation of the vocabulary keeps. -/
theorem secure_only {keeps : Shared → Prop} (vocabulary : Only allowed task)
    (sustained : ∀ op, allowed op → Sustains machine thread terms op fun _ => keeps)
    (kept : ∀ op work before result after, allowed op → keeps before →
      machine.progress thread before work op (.inr result) after → keeps after) :
    Secure machine thread terms task keeps (fun state _ => keeps state)
      (fun state _ => keeps state) := by
  induction task with
  | done value | fail error => exact fun _ holds => holds
  | call op next ih =>
    obtain ⟨here, later⟩ := only_call vocabulary
    refine ⟨fun _ => keeps, fun _ holds => holds, sustained op here, fun result => ?_⟩
    apply secure_pre (ih result (later result))
    rintro after ⟨work, before, holds, done⟩
    exact kept op work before result after here holds done

/-- Where nothing is owed to others and nothing is claimed, a task may do as it likes. -/
theorem secure_free (vocabulary : Only allowed task)
    (free : ∀ before after, terms.guarantee before after)
    (unguarded : ∀ op, allowed op → ∀ work state, terms.guard op work state) :
    Secure machine thread terms task pre (fun _ _ => True) fun _ _ => True := by
  have sustained : ∀ op, allowed op → Sustains machine thread terms op fun _ _ => True := by
    intro op permitted
    constructor
    · intro _ _ _ _ _
      trivial
    · intro _ _ _ _ _ _
      exact ⟨trivial, free _ _⟩
    · intro _ _ _ _ _ _
      exact free _ _
    · intro work state _
      exact unguarded op permitted work state
  apply secure_pre (secure_only vocabulary sustained fun _ _ _ _ _ _ _ _ => trivial)
  intro _ _
  trivial
end Tasks

/-! A task whose operations are part of a larger vocabulary. -/
section Lifting
variable {Op' : Type} {Res' : Op' → Type}

/-- The machine as seen through a smaller vocabulary. -/
def Machine.through (machine : Machine Index Op' Res' Err Work Shared) (name : Op → Op')
    (answer : (op : Op) → Res' (name op) → Res op) : Machine Index Op Res Err Work Shared where
  idle := machine.idle
  cut := machine.cut
  progress thread before work op outcome after := ∃ outcome',
    outcome = Sum.map id (answer op) outcome' ∧
      machine.progress thread before work (name op) outcome' after
  halts := machine.halts

def Terms.through (terms : Terms Op' Work Shared) (name : Op → Op') : Terms Op Work Shared where
  rely op := terms.rely (name op)
  guarantee := terms.guarantee
  guard op := terms.guard (name op)

variable {machine : Machine Index Op' Res' Err Work Shared}
variable {terms : Terms Op' Work Shared} {name : Op → Op'}
variable {answer : (op : Op) → Res' (name op) → Res op}

theorem secure_lift {task : Task Op Res Other Val} {pre : Shared → Prop}
    {post : Shared → Val → Prop} {failed : Shared → Other → Prop}
    (proved : Secure (machine.through name answer) thread (terms.through name) task pre post
      failed) :
    Secure machine thread terms (lift name answer task) pre post failed := by
  induction task generalizing pre with
  | done value | fail error => exact proved
  | call op next ih =>
    obtain ⟨during, begins, sustained, later⟩ := proved
    refine ⟨during, begins, ⟨sustained.stable, ?_, ?_, sustained.guarded⟩, fun result => ?_⟩
    · intro work before left after holds done
      exact sustained.works holds ⟨.inl left, rfl, done⟩
    · intro work before result after holds done
      exact sustained.finishes holds ⟨.inr result, rfl, done⟩
    · apply secure_pre (ih _ (later (answer op result)))
      rintro after ⟨work, before, holds, done⟩
      exact ⟨work, before, holds, .inr result, rfl, done⟩
end Lifting

variable {condition : Option Index → Crew Index Op Res Err Val Work Shared → Crew Index Op Res Err Val Work Shared → Prop}
variable {start : Crew Index Op Res Err Val Work Shared}

/-! All tasks together. -/
section Adequacy

/-- A thread in the middle of a run. -/
def Secured (machine : Machine Index Op Res Err Work Shared) (thread : Index)
    (terms : Terms Op Work Shared) (work : Work) (shared : Shared) :
    Task Op Res Err Val → Prop
  | .call op next => ∃ (during : Work → Shared → Prop) (post : Shared → Val → Prop)
      (failed : Shared → Err → Prop), during work shared ∧
      Sustains machine thread terms op during ∧
      ∀ result, Secure machine thread terms (next result)
        (fun after => ∃ work before, during work before ∧
          machine.progress thread before work op (.inr result) after) post failed
  | _ => True

variable {terms : Terms Op Work Shared} {shared : Shared} {task : Task Op Res Err Val}
variable {pre : Shared → Prop}

theorem secured_start {post : Shared → Val → Prop} {failed : Shared → Err → Prop}
    (proved : Secure machine thread terms task pre post failed) (holds : pre shared) :
    Secured machine thread terms machine.idle shared task := by
  cases task with
  | done value | fail error => trivial
  | call op next =>
    obtain ⟨during, begins, sustained, rest⟩ := proved
    exact ⟨during, post, failed, begins shared holds, sustained, rest⟩

/-- A thread in the middle of a run, with what holds once it has ended. -/
def Finishing (machine : Machine Index Op Res Err Work Shared) (thread : Index)
    (terms : Terms Op Work Shared) (final : Shared → Prop) (work : Work) (shared : Shared) :
    Task Op Res Err Val → Prop
  | .call op next => ∃ during : Work → Shared → Prop, during work shared ∧
      Sustains machine thread terms op during ∧
      ∀ result, Secure machine thread terms (next result)
        (fun after => ∃ work before, during work before ∧
          machine.progress thread before work op (.inr result) after)
        (fun after _ => final after) (fun after _ => final after)
  | _ => final shared

theorem finishing_start {final : Shared → Prop}
    (proved : Secure machine thread terms task pre (fun after _ => final after)
      fun after _ => final after) (holds : pre shared) :
    Finishing machine thread terms final machine.idle shared task := by
  cases task with
  | done value | fail error => exact proved shared holds
  | call op next =>
    obtain ⟨during, begins, sustained, rest⟩ := proved
    exact ⟨during, begins shared holds, sustained, rest⟩

variable {work : Work}

theorem finishing_stable {final : Shared → Prop} {before after : Shared}
    (finishing : Finishing machine thread terms final work before task)
    (relied : ∀ op next, task = .call op next → terms.rely op work before after)
    (stays : final before → final after) :
    Finishing machine thread terms final work after task := by
  cases task with
  | done value | fail error => exact stays finishing
  | call op next =>
    obtain ⟨during, holds, sustained, rest⟩ := finishing
    exact ⟨during, sustained.stable holds (relied op next rfl), sustained, rest⟩

-- Secured is finishing with nothing owed at the end.
theorem secured_iff :
    Secured machine thread terms work shared task ↔
      Finishing machine thread terms (fun _ => True) work shared task := by
  cases task with
  | done value | fail error => exact Iff.rfl
  | call op next =>
    constructor
    · rintro ⟨during, post, failed, holds, sustained, rest⟩
      refine ⟨during, holds, sustained, fun result => ?_⟩
      exact secure_mono (rest result) (fun _ kept => kept) (fun _ _ _ => trivial)
        (fun _ _ _ => trivial)
    · rintro ⟨during, holds, sustained, rest⟩
      exact ⟨during, _, _, holds, sustained, rest⟩

theorem secured_guard {op : Op} {next : Res op → Task Op Res Err Val}
    (secured : Secured machine thread terms work shared (.call op next)) :
    terms.guard op work shared := by
  obtain ⟨during, post, failed, holds, sustained, rest⟩ := secured
  exact sustained.guarded holds

variable [DecidableEq Index] {terms : Index → Terms Op Work Shared}

def AllSecured (machine : Machine Index Op Res Err Work Shared)
    (terms : Index → Terms Op Work Shared) (crew : Crew Index Op Res Err Val Work Shared) : Prop :=
  ∀ thread, Secured machine thread (terms thread) (crew.work thread) crew.shared
    (crew.task thread)

/-- What every thread guarantees, under the condition on the run, is what the
others rely on. -/
structure Compatible (machine : Machine Index Op Res Err Work Shared)
    (terms : Index → Terms Op Work Shared)
    (condition : Option Index → Crew Index Op Res Err Val Work Shared →
      Crew Index Op Res Err Val Work Shared → Prop) : Prop where
  acting : ∀ {actor before after}, AllSecured machine terms before →
    Step machine (some actor) before after → condition (some actor) before after →
    (terms actor).guarantee before.shared after.shared →
    ∀ other, other ≠ actor → ∀ op next, before.task other = .call op next →
      (terms other).rely op (before.work other) before.shared after.shared
  halting : ∀ {before after}, AllSecured machine terms before → Step machine none before after →
    condition none before after → ∀ other op next, after.task other = .call op next →
      (terms other).rely op (after.work other) before.shared after.shared

/-- The others leave what holds of an ended thread alone, and a halt brings it about. -/
structure Lasting (machine : Machine Index Op Res Err Work Shared)
    (final : Index → Shared → Prop) : Prop where
  acting : ∀ {actor before work op outcome after}, machine.progress actor before work op outcome
    after → ∀ other, other ≠ actor → final other before → final other after
  halting : ∀ {gone before after}, machine.halts gone before after →
    ∀ thread, gone thread ∨ final thread before → final thread after

variable (compatible : Compatible machine terms condition)
include compatible

variable {actor : Option Index}

theorem step_finishing (lasting : Lasting machine final) (secured : AllSecured machine terms before)
    (finishing : ∀ thread, Finishing machine thread (terms thread) (final thread)
      (before.work thread) before.shared (before.task thread))
    (taken : Step machine actor before after) (allowed : condition actor before after) :
    ∀ thread, Finishing machine thread (terms thread) (final thread) (after.work thread)
      after.shared (after.task thread) := by
  intro other
  cases taken with
  | @works _ thread op next work shared running done =>
    have acting := finishing thread
    rw [running] at acting
    obtain ⟨during, holds, sustained, rest⟩ := acting
    obtain ⟨kept, given⟩ := sustained.works holds done
    by_cases same : other = thread
    · subst same
      simp only [Crew.advance, Function.update_self]
      exact ⟨during, kept, sustained, rest⟩
    · simp only [Crew.advance, Function.update_of_ne same]
      apply finishing_stable (finishing other)
      · exact compatible.acting secured (.works running done) allowed given other same
      · exact lasting.acting done other same
  | @finishes _ thread op next result shared running done =>
    have acting := finishing thread
    rw [running] at acting
    obtain ⟨during, holds, sustained, rest⟩ := acting
    have given := sustained.finishes holds done
    by_cases same : other = thread
    · subst same
      simp only [Crew.advance, Function.update_self]
      exact finishing_start (rest result) ⟨_, _, holds, done⟩
    · simp only [Crew.advance, Function.update_of_ne same]
      apply finishing_stable (finishing other)
      · exact compatible.acting secured (.finishes running done) allowed given other same
      · exact lasting.acting done other same
  | @halts _ gone _ shared left =>
    have relied := compatible.halting secured (.halts left) allowed other
    by_cases removed : gone other
    · simp only [removed, if_true]
      exact lasting.halting left other (Or.inl removed)
    · simp only [removed, if_false] at relied ⊢
      exact finishing_stable (finishing other) relied fun ended =>
        lasting.halting left other (Or.inr ended)

theorem step_secured (secured : AllSecured machine terms before)
    (taken : Step machine actor before after) (allowed : condition actor before after) :
    AllSecured machine terms after := by
  have lasting : Lasting machine fun _ _ => True :=
    ⟨fun _ _ _ _ => trivial, fun _ _ _ => trivial⟩
  have finishing := fun thread => secured_iff.mp (secured thread)
  intro thread
  exact secured_iff.mpr (step_finishing compatible lasting secured finishing taken allowed thread)

variable {final : Crew Index Op Res Err Val Work Shared}

/-- Secure tasks stay secure. -/
theorem run_secured (secured : AllSecured machine terms start)
    (run : Run machine condition start final) :
    AllSecured machine terms final := by
  induction run with
  | refl => exact secured
  | tail _ last ih =>
    obtain ⟨actor, taken, allowed⟩ := last
    exact step_secured compatible ih taken allowed

omit compatible

theorem step_guarded (secured : AllSecured machine terms before)
    (taken : Step machine (some thread) before after) :
    ∃ op next outcome, before.task thread = .call op next ∧
      (terms thread).guard op (before.work thread) before.shared ∧
      machine.progress thread before.shared (before.work thread) op outcome after.shared := by
  obtain ⟨op, next, outcome, running, done⟩ := step_progress taken
  have acting := secured thread
  rw [running] at acting
  exact ⟨op, next, outcome, running, secured_guard acting, done⟩

/-- What every step of secure tasks keeps holds throughout a run. -/
theorem run_invariant {invariant : Shared → Prop} (compatible : Compatible machine terms condition)
    (secured : AllSecured machine terms start)
    (kept : ∀ actor before after, AllSecured machine terms before →
      Step machine actor before after → condition actor before after → invariant before.shared →
      invariant after.shared) (holds : invariant start.shared)
    (run : Run machine condition start final) :
    invariant final.shared := by
  induction run with
  | refl => exact holds
  | tail earlier last ih =>
    obtain ⟨actor, taken, allowed⟩ := last
    exact kept actor _ _ (run_secured compatible secured earlier) taken allowed ih
end Adequacy

/-! What is known of a thread that has ended. -/
section Endings
variable [DecidableEq Index]
variable {terms : Index → Terms Op Work Shared}
variable {reached : Crew Index Op Res Err Val Work Shared}

/-- In every run, what a program establishes at its end holds of the threads that have ended. -/
theorem run_final (compatible : Compatible machine terms condition)
    (lasting : Lasting machine final) (secured : AllSecured machine terms start)
    (finishing : ∀ thread, Finishing machine thread (terms thread) (final thread) (start.work
      thread) start.shared (start.task thread)) (run : Run machine condition start reached) :
    ∀ thread, (∀ op next, reached.task thread ≠ .call op next) → final thread reached.shared := by
  have throughout : ∀ thread, Finishing machine thread (terms thread) (final thread)
      (reached.work thread) reached.shared (reached.task thread) := by
    induction run with
    | refl => exact finishing
    | tail earlier last ih =>
      obtain ⟨actor, taken, allowed⟩ := last
      exact step_finishing compatible lasting (run_secured compatible secured earlier) ih taken
        allowed
  intro thread ended
  have known := throughout thread
  cases task : reached.task thread with
  | done value | fail error =>
    rw [task] at known
    exact known
  | call op next => exact absurd task (ended op next)

-- A thread that has ended does nothing any more.
theorem run_stays_ended (ended : ∀ op next, start.task thread ≠ .call op next)
    (run : Run machine condition start reached) :
    ∀ op next, reached.task thread ≠ .call op next := by
  induction run with
  | refl => exact ended
  | tail earlier last ih =>
    obtain ⟨actor, taken, -⟩ := last
    intro op next
    cases taken with
    | @works _ acting _ _ _ _ running _ | @finishes _ acting _ _ _ _ running _ =>
      have other : thread ≠ acting := by
        rintro rfl
        exact ih _ _ running
      simp only [Crew.advance, Function.update_of_ne other]
      exact ih op next
    | @halts _ gone _ _ _ =>
      by_cases removed : gone thread
      · simp [removed]
      · simp only [removed, if_false]
        exact ih op next

/-- A fact about the shape of every continuation stays with the tasks of a run. -/
theorem run_everywhere {holds : (op : Op) → (Res op → Task Op Res Err Val) → Prop}
    (shaped : ∀ thread, Everywhere holds (start.task thread))
    (run : Run machine condition start reached) :
    ∀ thread, Everywhere holds (reached.task thread) := by
  induction run with
  | refl => exact shaped
  | tail earlier last ih =>
    obtain ⟨actor, taken, -⟩ := last
    intro other
    cases taken with
    | @works _ thread op next work shared running done =>
      by_cases same : other = thread
      · subst same
        simp only [Crew.advance, Function.update_self]
        exact running ▸ ih other
      · simp only [Crew.advance, Function.update_of_ne same]
        exact ih other
    | @finishes _ thread op next result shared running done =>
      by_cases same : other = thread
      · subst same
        simp only [Crew.advance, Function.update_self]
        have here := ih other
        rw [running] at here
        exact here.2 result
      · simp only [Crew.advance, Function.update_of_ne same]
        exact ih other
    | @halts _ gone _ shared left =>
      by_cases removed : gone other
      · simp only [removed, if_true]
        trivial
      · simp only [removed, if_false]
        exact ih other
end Endings

/-! What a thread has seen by itself. A specification of its program over that view
holds of what is left of the program, whatever the others do. -/
section Views
variable {View : Type}
variable [DecidableEq Index]

/-- The view of a thread changes with the results of its own operations only. -/
structure Views (machine : Machine Index Op Res Err Work Shared)
    (view : Index → Shared → View) : Prop where
  works : ∀ {thread before work op left after},
    machine.progress thread before work op (.inl left) after → view thread after = view thread before
  apart : ∀ {actor before work op outcome after},
    machine.progress actor before work op outcome after →
      ∀ other, other ≠ actor → view other after = view other before
  halting : ∀ {gone before after}, machine.halts gone before after →
    ∀ thread, view thread after = view thread before

variable {view : Index → Shared → View} {step : View → (op : Op) → Res op → View → Prop}
variable {guard : Index → View → Op → Prop} {post : Index → View → Val → Prop}
variable {failed : Index → View → Err → Prop}

theorem run_holds {reached : Crew Index Op Res Err Val Work Shared} (views : Views machine view)
    (acts : ∀ {thread op next result shared} {crew : Crew Index Op Res Err Val Work Shared},
      crew.task thread = .call op next →
      machine.progress thread crew.shared (crew.work thread) op (.inr result) shared →
      condition (some thread) crew (crew.advance thread (next result) machine.idle shared) →
      step (view thread crew.shared) op result (view thread shared))
    (begins : ∀ thread, Holds step (guard thread) (start.task thread) (post thread)
      (failed thread) (view thread start.shared)) (run : Run machine condition start reached) :
    ∀ thread, reached.task thread = .fail machine.cut ∨
      Holds step (guard thread) (reached.task thread) (post thread) (failed thread)
        (view thread reached.shared) := by
  induction run with
  | refl => exact fun thread => Or.inr (begins thread)
  | tail earlier last ih =>
    obtain ⟨actor, taken, allowed⟩ := last
    intro other
    have known := ih other
    cases taken with
    | @works _ thread op next work shared running done =>
      by_cases same : other = thread
      · subst same
        simp only [Crew.advance, Function.update_self]
        rw [views.works done, ← running]
        exact known
      · simp only [Crew.advance, Function.update_of_ne same]
        rw [views.apart done other same]
        exact known
    | @finishes _ thread op next result shared running done =>
      by_cases same : other = thread
      · subst same
        simp only [Crew.advance, Function.update_self]
        rw [running, holds_call] at known
        right
        rcases known with impossible | known
        · cases impossible
        · exact known.2 result _ (acts running done allowed)
      · simp only [Crew.advance, Function.update_of_ne same]
        rw [views.apart done other same]
        exact known
    | @halts _ gone _ shared left =>
      simp only
      rw [views.halting left other]
      by_cases removed : gone other
      · exact Or.inl (if_pos removed)
      · rw [if_neg removed]
        exact known
end Views
end Misaka.RelyGuarantee
