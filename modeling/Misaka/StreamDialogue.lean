import Misaka.Duplex

/-!
Two tasks that talk over a pair of streams and know of each other only what they read.
A read waits until enough has arrived, so what an end does next depends on what it has
been sent and not on when. Steps of the two ends therefore commute, and a conversation
that comes to an end in one schedule comes to the same end in every schedule.
-/

namespace Misaka.StreamDialogue
open EffectTask Duplex Relation

/-! Systems in which steps commute. -/
section Diamonds
variable {State : Type} {step : State → State → Prop} {good : State → Prop}

/-- Two steps from one state meet again, at once or after one more step each. -/
def Diamond (step : State → State → Prop) : Prop :=
  ∀ state left right, step state left → step state right →
    left = right ∨ ∃ next, step left next ∧ step right next

theorem settles_before (diamond : Diamond step) {state after : State} (taken : step state after)
    (settles : Settles step good after) : Settles step good state := by
  induction settles generalizing state with
  | @rest final resting holds =>
    refine .move taken fun next other => ?_
    rcases diamond state final next taken other with rfl | ⟨meeting, moved, _⟩
    · exact .rest resting holds
    · exact absurd moved (resting meeting)
  | @move middle following moves settles ih =>
    refine .move taken fun next other => ?_
    rcases diamond state middle next taken other with rfl | ⟨meeting, moved, joined⟩
    · exact .move moves settles
    · exact ih meeting moved joined

theorem settles_along (diamond : Diamond step) {state final : State}
    (run : ReflTransGen step state final) (settles : Settles step good final) :
    Settles step good state := by
  induction run using ReflTransGen.head_induction_on with
  | refl => exact settles
  | head taken _ ih => exact settles_before diamond taken ih

theorem settles_after {state after : State} (settles : Settles step good state)
    (run : ReflTransGen step state after) : Settles step good after := by
  induction run with
  | refl => exact settles
  | tail _ taken ih =>
    cases ih with
    | rest resting _ => exact absurd taken (resting _)
    | move _ settles => exact settles _ taken
end Diamonds

/-! One end of the conversation. -/
section Ends

/-- What an operation answers, and what it takes from one stream and puts on the other. -/
structure Reaction (Result State In Out : Type) where
  result : Result
  state : State
  left : List In
  sent : List Out

/-- How an end performs its operations, given what has arrived and whether the other end
has hung up. No reaction means that the operation waits. -/
abbrev Reactor (Op : Type) (Res : Op → Type) (State In Out : Type) :=
  State → (op : Op) → List In → Bool → Option (Reaction (Res op) State In Out)

variable {Op : Type} {Res : Op → Type} {Err Other Val New State In Out : Type}

/-- What an operation does it also does when more has arrived. -/
def Patient (react : Reactor Op Res State In Out) : Prop :=
  ∀ state op arrived reaction, react state op arrived false = some reaction →
    ∀ more closed, react state op (arrived ++ more) closed =
      some { reaction with left := reaction.left ++ more }

structure Half (Op : Type) (Res : Op → Type) (Err Val State In : Type) where
  task : Task Op Res Err Val
  state : State
  arrived : List In

def isEnded : Task Op Res Err Val → Bool
  | .call _ _ => false
  | _ => true

def Half.receive (half : Half Op Res Err Val State In) (more : List In) :
    Half Op Res Err Val State In := { half with arrived := half.arrived ++ more }

def Half.advance (react : Reactor Op Res State In Out) (half : Half Op Res Err Val State In)
    (closed : Bool) : Option (Half Op Res Err Val State In × List Out) :=
  match half.task with
  | .call op next => (react half.state op half.arrived closed).map fun reaction =>
    (⟨next reaction.result, reaction.state, reaction.left⟩, reaction.sent)
  | _ => none

variable {react : Reactor Op Res State In Out} {half after : Half Op Res Err Val State In}
variable {sent : List Out}

@[simp] theorem receive_nil : half.receive [] = half := by
  simp [Half.receive]

@[simp] theorem receive_receive (first second : List In) :
    (half.receive first).receive second = half.receive (first ++ second) := by
  simp [Half.receive]

theorem advance_not_ended {closed : Bool} (moved : half.advance react closed = some (after, sent)) :
    isEnded half.task = false := by
  obtain ⟨task, state, arrived⟩ := half
  cases task with
  | call op next => rfl
  | done value | fail error => cases moved

theorem advance_patient (patient : Patient react)
    (moved : half.advance react false = some (after, sent)) (more : List In) (closed : Bool) :
    (half.receive more).advance react closed = some (after.receive more, sent) := by
  obtain ⟨task, state, arrived⟩ := half
  cases task with
  | done value | fail error => cases moved
  | call op next =>
    simp only [Half.advance, Option.map_eq_some_iff, Prod.mk.injEq] at moved
    obtain ⟨reaction, reacted, rfl, rfl⟩ := moved
    simp only [Half.advance, Half.receive, patient _ _ _ _ reacted more closed, Option.map_some]

/-- An end works on its own for a while. -/
inductive Works (react : Reactor Op Res State In Out) :
    Half Op Res Err Val State In → List Out → Half Op Res Err Val State In → Prop where
  | here (half : Half Op Res Err Val State In) : Works react half [] half
  | more {half middle after : Half Op Res Err Val State In} {sent later : List Out}
      (moved : half.advance react false = some (middle, sent))
      (works : Works react middle later after) : Works react half (sent ++ later) after

variable {later : List Out} {arrived : List In} {state : State}

theorem works_call {op : Op} {next : Res op → Task Op Res Err Val}
    {reaction : Reaction (Res op) State In Out}
    (reacted : react state op arrived false = some reaction)
    (works : Works react ⟨next reaction.result, reaction.state, reaction.left⟩ later after) :
    Works react ⟨.call op next, state, arrived⟩ (reaction.sent ++ later) after :=
  .more (by simp only [Half.advance, reacted, Option.map_some]) works

theorem works_trans {middle : Half Op Res Err Val State In} (first : Works react half sent middle)
    (second : Works react middle later after) :
    Works react half (sent ++ later) after := by
  induction first with
  | here half => exact second
  | more moved _ ih =>
    rw [List.append_assoc]
    exact .more moved (ih second)

variable {left : List In}

/-- A task works inside a larger one as it works alone. -/
theorem works_in (context : Task Op Res Err New → Task Op Res Other Val)
    (inside : ∀ op next, context (.call op next) = .call op fun result => context (next result))
    {task stopped : Task Op Res Err New} {final : State}
    (works : Works react ⟨task, state, arrived⟩ sent ⟨stopped, final, left⟩) :
    Works react ⟨context task, state, arrived⟩ sent ⟨context stopped, final, left⟩ := by
  generalize start : (⟨task, state, arrived⟩ : Half Op Res Err New State In) = half at works
  generalize finish : (⟨stopped, final, left⟩ : Half Op Res Err New State In) = after at works
  induction works generalizing task state arrived with
  | here half =>
    cases start
    cases finish
    exact .here _
  | more moved _ ih =>
    subst start
    cases task with
    | done value | fail error => cases moved
    | call op next =>
      simp only [Half.advance, Option.map_eq_some_iff, Prod.mk.injEq] at moved
      obtain ⟨reaction, reacted, rfl, rfl⟩ := moved
      rw [inside]
      exact works_call reacted (ih rfl finish)

theorem works_bind {task : Task Op Res Err New} {rest : New → Task Op Res Err Val} {value : New}
    {middle : State} (first : Works react ⟨task, state, arrived⟩ sent ⟨.done value, middle, left⟩)
    (second : Works react ⟨rest value, middle, left⟩ later after) :
    Works react ⟨task >>= rest, state, arrived⟩ (sent ++ later) after :=
  works_trans (works_in (· >>= rest) (fun _ _ => rfl) first) second

end Ends

/-! The conversation. -/
section Conversations
variable {LOp ROp : Type} {LRes : LOp → Type} {RRes : ROp → Type}
variable {LErr LVal LState RErr RVal RState Word Reply : Type}

structure Conversation (LOp : Type) (LRes : LOp → Type) (LErr LVal LState : Type) (ROp : Type)
    (RRes : ROp → Type) (RErr RVal RState Word Reply : Type) where
  caller : Half LOp LRes LErr LVal LState Reply
  host : Half ROp RRes RErr RVal RState Word

variable (calls : Reactor LOp LRes LState Reply Word) (hosts : Reactor ROp RRes RState Word Reply)

inductive Speaks :
    Conversation LOp LRes LErr LVal LState ROp RRes RErr RVal RState Word Reply →
    Conversation LOp LRes LErr LVal LState ROp RRes RErr RVal RState Word Reply → Prop where
  | caller {caller after : Half LOp LRes LErr LVal LState Reply}
      {host : Half ROp RRes RErr RVal RState Word} {sent : List Word}
      (moved : caller.advance calls (isEnded host.task) = some (after, sent)) :
      Speaks ⟨caller, host⟩ ⟨after, host.receive sent⟩
  | host {caller : Half LOp LRes LErr LVal LState Reply}
      {host after : Half ROp RRes RErr RVal RState Word} {sent : List Reply}
      (moved : host.advance hosts (isEnded caller.task) = some (after, sent)) :
      Speaks ⟨caller, host⟩ ⟨caller.receive sent, after⟩

variable {calls hosts}

/-- An end that speaks leaves everything the other end was about to do as it was. -/
theorem speaks_diamond (callsPatient : Patient calls) (hostsPatient : Patient hosts) :
    Diamond (@Speaks LOp ROp LRes RRes LErr LVal LState RErr RVal RState Word Reply
      calls hosts) := by
  have meets : ∀ (caller after : Half LOp LRes LErr LVal LState Reply)
      (host later : Half ROp RRes RErr RVal RState Word) (said : List Word) (replied : List Reply),
      caller.advance calls (isEnded host.task) = some (after, said) →
      host.advance hosts (isEnded caller.task) = some (later, replied) →
      Speaks calls hosts ⟨after, host.receive said⟩ ⟨after.receive replied, later.receive said⟩ ∧
      Speaks calls hosts ⟨caller.receive replied, later⟩
        ⟨after.receive replied, later.receive said⟩ := by
    intro caller after host later said replied called hosted
    rw [advance_not_ended hosted] at called
    rw [advance_not_ended called] at hosted
    exact ⟨.host (advance_patient hostsPatient hosted said _),
      .caller (advance_patient callsPatient called replied _)⟩
  intro state left right one two
  cases one with
  | caller called =>
    cases two with
    | caller again =>
      rw [called] at again
      cases again
      exact .inl rfl
    | host hosted =>
      obtain ⟨first, second⟩ := meets _ _ _ _ _ _ called hosted
      exact .inr ⟨_, first, second⟩
  | host hosted =>
    cases two with
    | host again =>
      rw [hosted] at again
      cases again
      exact .inl rfl
    | caller called =>
      obtain ⟨first, second⟩ := meets _ _ _ _ _ _ called hosted
      exact .inr ⟨_, second, first⟩

variable {caller calling : Half LOp LRes LErr LVal LState Reply}
variable {host hosting : Half ROp RRes RErr RVal RState Word}

/-- An end that has come to its end stays there. -/
theorem ended_caller_stays
    {before after : Conversation LOp LRes LErr LVal LState ROp RRes RErr RVal RState Word Reply}
    (run : ReflTransGen (Speaks calls hosts) before after)
    (ended : isEnded before.caller.task = true) : after.caller.task = before.caller.task := by
  induction run with
  | refl => rfl
  | tail _ taken ih =>
    cases taken with
    | caller moved =>
      have running := advance_not_ended moved
      rw [show _ = before.caller.task from ih, ended] at running
      cases running
    | host _ => exact ih

theorem caller_works {said : List Word} (patient : Patient calls)
    (works : Works calls caller said calling) (host : Half ROp RRes RErr RVal RState Word) :
    ReflTransGen (Speaks calls hosts) ⟨caller, host⟩ ⟨calling, host.receive said⟩ := by
  induction works generalizing host with
  | here half =>
    rw [receive_nil]
  | @more half middle after sent later moved _ ih =>
    have onward := advance_patient patient moved [] (isEnded host.task)
    rw [receive_nil, receive_nil] at onward
    have onwards := ih (host.receive sent)
    rw [receive_receive] at onwards
    exact .head (.caller onward) onwards

theorem host_works {replied : List Reply} (patient : Patient hosts)
    (works : Works hosts host replied hosting)
    (caller : Half LOp LRes LErr LVal LState Reply) :
    ReflTransGen (Speaks calls hosts) ⟨caller, host⟩ ⟨caller.receive replied, hosting⟩ := by
  induction works generalizing caller with
  | here half =>
    rw [receive_nil]
  | @more half middle after sent later moved _ ih =>
    have onward := advance_patient patient moved [] (isEnded caller.task)
    rw [receive_nil, receive_nil] at onward
    have onwards := ih (caller.receive sent)
    rw [receive_receive] at onwards
    exact .head (.host onward) onwards
end Conversations
end Misaka.StreamDialogue
