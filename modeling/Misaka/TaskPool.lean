import Misaka.EffectTask

/-!
Tasks that run concurrently over one shared state. A step lets one thread
perform its next operation, or lets the environment move the state; a run is any
interleaving of these. Each thread keeps the trace of its own operations, so
what a task guarantees by itself carries over to the thread, and what holds
between threads follows from a relation that every step preserves.
-/

namespace Misaka.TaskPool
open EffectTask

structure Pool (Index Op : Type) (Res : Op → Type) (Err Val : Index → Type) (Shared : Type) where
  shared : Shared
  task : (thread : Index) → Task Op Res (Err thread) (Val thread)
  trace : Index → List (Event Op Res Shared)

section Runs
variable {Index Op : Type} {Res : Op → Type} {Err Val : Index → Type} {Shared : Type}
variable [DecidableEq Index]

def Pool.start (shared : Shared) (task : (thread : Index) → Task Op Res (Err thread) (Val thread)) :
    Pool Index Op Res Err Val Shared :=
  ⟨shared, task, fun _ => []⟩

/-- The pool after one thread got to a task, with its trace and the state it left. -/
def Pool.advance (pool : Pool Index Op Res Err Val Shared) (thread : Index)
    (task : Task Op Res (Err thread) (Val thread)) (trace : List (Event Op Res Shared))
    (shared : Shared) : Pool Index Op Res Err Val Shared where
  shared := shared
  task := Function.update pool.task thread task
  trace := Function.update pool.trace thread trace

inductive Step (step : Index → Shared → (op : Op) → Res op → Shared → Prop)
    (moves : Shared → Shared → Prop) :
    Pool Index Op Res Err Val Shared → Pool Index Op Res Err Val Shared → Prop where
  | act (pool : Pool Index Op Res Err Val Shared) (thread : Index) {op : Op}
      {next : Res op → Task Op Res (Err thread) (Val thread)} {result : Res op} {after : Shared}
      (running : pool.task thread = .call op next)
      (taken : step thread pool.shared op result after) :
      Step step moves pool (pool.advance thread (next result)
        (⟨pool.shared, op, result, after⟩ :: pool.trace thread) after)
  | environment (pool : Pool Index Op Res Err Val Shared) {after : Shared}
      (moved : moves pool.shared after) : Step step moves pool { pool with shared := after }

variable {step : Index → Shared → (op : Op) → Res op → Shared → Prop}
variable {moves : Shared → Shared → Prop} {pool final : Pool Index Op Res Err Val Shared}

def Run (step : Index → Shared → (op : Op) → Res op → Shared → Prop)
    (moves : Shared → Shared → Prop) :
    Pool Index Op Res Err Val Shared → Pool Index Op Res Err Val Shared → Prop :=
  Relation.ReflTransGen (Step step moves)

/-- A thread of an interleaved run is a run of its task by itself. -/
theorem thread_reaches (run : Run step moves pool final) (thread : Index) :
    Reaches (traceStep (step thread)) (pool.task thread) (pool.trace thread) (final.task thread)
      (final.trace thread) := by
  induction run with
  | refl => exact .here _ _
  | tail _ last ih =>
    cases last with
    | environment moved => exact ih
    | act active running taken =>
      by_cases same : thread = active
      · subst same
        rw [running] at ih
        simpa [Pool.advance] using reaches_snoc ih ⟨_, _, taken, rfl⟩
      · simpa [Pool.advance, Function.update_of_ne same] using ih

theorem thread_traces {shared : Shared}
    {task : (thread : Index) → Task Op Res (Err thread) (Val thread)}
    (run : Run step moves (Pool.start shared task) final) (thread : Index) :
    Traces (step thread) (task thread) (final.trace thread) (final.task thread) :=
  thread_reaches run thread

/-! Facts between threads. -/
section Order
variable {precedes : Shared → Shared → Prop}

/-- A preorder on the shared state that every step of a run goes up in. -/
structure Ascends (step : Index → Shared → (op : Op) → Res op → Shared → Prop)
    (moves precedes : Shared → Shared → Prop) : Prop where
  refl : ∀ state, precedes state state
  trans : ∀ {first second third}, precedes first second → precedes second third →
    precedes first third
  stepped : ∀ {thread state op result after}, step thread state op result after →
    precedes state after
  moved : ∀ {state after}, moves state after → precedes state after

variable {shared : Shared} {task : (thread : Index) → Task Op Res (Err thread) (Val thread)}
variable (ascends : Ascends step moves precedes)
include ascends

variable (run : Run step moves (Pool.start shared task) final)
include run

variable {thread : Index} {event : Event Op Res Shared}

theorem events_precede (member : event ∈ final.trace thread) :
    precedes event.after final.shared := by
  induction run with
  | refl => cases member
  | tail _ last ih =>
    cases last with
    | environment moved => exact ascends.trans (ih member) (ascends.moved moved)
    | act active running taken =>
      by_cases same : thread = active
      · subst same
        simp only [Pool.advance, Function.update_self, List.mem_cons] at member
        rcases member with rfl | member
        · exact ascends.refl _
        · exact ascends.trans (ih member) (ascends.stepped taken)
      · simp only [Pool.advance, Function.update_of_ne same] at member
        exact ascends.trans (ih member) (ascends.stepped taken)

/-- An operation of a thread meets what its earlier operations left. -/
theorem thread_events_precede {later earlier : List (Event Op Res Shared)}
    {first : Event Op Res Shared} (split : final.trace thread = later ++ event :: earlier)
    (firstly : first ∈ earlier) :
    precedes first.after event.before := by
  induction run generalizing later with
  | refl => cases later <;> cases split
  | tail before last ih =>
    cases last with
    | environment moved => exact ih split
    | act active running taken =>
      by_cases same : thread = active
      · subst same
        simp only [Pool.advance, Function.update_self] at split
        cases later with
        | nil =>
          obtain ⟨rfl, rfl⟩ := List.cons.inj split
          exact events_precede ascends before firstly
        | cons newest later => exact ih (List.cons.inj split).2
      · simp only [Pool.advance, Function.update_of_ne same] at split
        exact ih split

/-- Of two operations of different threads, one comes first. -/
theorem events_ordered {left right : Index} (different : left ≠ right)
    {first second : Event Op Res Shared} (firstly : first ∈ final.trace left)
    (secondly : second ∈ final.trace right) :
    precedes first.after second.before ∨ precedes second.after first.before := by
  induction run with
  | refl => cases firstly
  | tail earlier last ih =>
    cases last with
    | environment _ => exact ih firstly secondly
    | act active running taken =>
      simp only [Pool.advance] at firstly secondly
      by_cases leads : left = active
      · subst leads
        rw [Function.update_of_ne different.symm] at secondly
        rw [Function.update_self, List.mem_cons] at firstly
        rcases firstly with rfl | firstly
        · exact Or.inr (events_precede ascends earlier secondly)
        · exact ih firstly secondly
      · rw [Function.update_of_ne leads] at firstly
        by_cases follows : right = active
        · subst follows
          rw [Function.update_self, List.mem_cons] at secondly
          rcases secondly with rfl | secondly
          · exact Or.inl (events_precede ascends earlier firstly)
          · exact ih firstly secondly
        · rw [Function.update_of_ne follows] at secondly
          exact ih firstly secondly
end Order

/-! Scheduling: a thread may run alone for a while, if each of its operations
meets the state the one before it left. -/
section Scheduling

def Chained : Shared → List (Event Op Res Shared) → Shared → Prop
  | first, [], last => first = last
  | first, event :: earlier, last => event.after = last ∧ Chained first earlier event.before

theorem advance_idle (thread : Index) :
    pool.advance thread (pool.task thread) (pool.trace thread) pool.shared = pool := by
  simp [Pool.advance]

theorem advance_advance (thread : Index) (task again : Task Op Res (Err thread) (Val thread))
    (trace longer : List (Event Op Res Shared)) (shared last : Shared) :
    (pool.advance thread task trace shared).advance thread again longer last =
      pool.advance thread again longer last := by
  simp [Pool.advance]

variable {shared : Shared} {new : List (Event Op Res Shared)}

theorem advance_run {thread : Index} {task : Task Op Res (Err thread) (Val thread)}
    (run : Reaches (traceStep (step thread)) (pool.task thread) (pool.trace thread) task
      (new ++ pool.trace thread)) (chained : Chained pool.shared new shared) :
    Run step moves pool (pool.advance thread task (new ++ pool.trace thread) shared) := by
  induction new generalizing task shared with
  | nil =>
    obtain rfl := reaches_idle run
    obtain rfl : pool.shared = shared := chained
    rw [List.nil_append, advance_idle]
    exact .refl
  | cons event earlier ih =>
    obtain ⟨rfl, before⟩ := chained
    obtain ⟨next, alone, taken, rfl⟩ := reaches_unsnoc run (List.suffix_append _ _)
    have waiting := ih alone before
    have last : Step step moves
        (pool.advance thread (.call event.op next) (earlier ++ pool.trace thread) event.before)
        (pool.advance thread (next event.result) (event :: (earlier ++ pool.trace thread))
          event.after) := by
      have running : (pool.advance thread (.call event.op next)
          (earlier ++ pool.trace thread) event.before).task thread = .call event.op next := by
        simp [Pool.advance]
      have acted : Step step moves _ _ := .act _ thread running taken
      simpa [Pool.advance] using acted
    exact waiting.tail last

theorem schedule (thread : Index) {current task : Task Op Res (Err thread) (Val thread)}
    {past longer : List (Event Op Res Shared)}
    (run : Reaches (traceStep (step thread)) current past task longer)
    (chained : Chained pool.shared new shared) (grown : longer = new ++ past)
    (waiting : pool.task thread = current) (performed : pool.trace thread = past) :
    Run step moves pool (pool.advance thread task longer shared) := by
  subst waiting performed grown
  exact advance_run run chained
end Scheduling
end Runs
end Misaka.TaskPool
