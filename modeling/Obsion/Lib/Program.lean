import Mathlib.Tactic

/-! # Programs that talk to an environment

A program asks its environment for one operation after another and goes on with
the answers.  `Runs` relates a program to the operations it asked for, with their
answers, and to what it returned; it ranges over every environment.  An `Action`
also carries a state and can raise: its rules say what a run of a composed action
is made of. -/

namespace Obsion.Lib

inductive Program (Op : Type) (Answer : Op → Type) (α : Type)
  | done (value : α)
  | call (op : Op) (next : Answer op → Program Op Answer α)

structure Event {Op : Type} (Answer : Op → Type) where
  op : Op
  answer : Answer op

namespace Program

variable {Op : Type} {Answer : Op → Type} {α β : Type}

def bind : Program Op Answer α → (α → Program Op Answer β) → Program Op Answer β
  | .done value, next => next value
  | .call op rest, next => .call op fun answer => (rest answer).bind next

inductive Runs : Program Op Answer α → List (Event Answer) → α → Prop
  | done (value : α) : Runs (.done value) [] value
  | call {op : Op} {next : Answer op → Program Op Answer α} {answer : Answer op}
      {events : List (Event Answer)} {value : α} (rest : Runs (next answer) events value) :
      Runs (.call op next) (⟨op, answer⟩ :: events) value

/-- The run in which the environment gives each operation its one answer. -/
def eval (environment : (op : Op) → Answer op) : Program Op Answer α → List (Event Answer) × α
  | .done value => ([], value)
  | .call op next =>
    let rest := (next (environment op)).eval environment
    (⟨op, environment op⟩ :: rest.1, rest.2)

lemma runs_eval (environment : (op : Op) → Answer op) (program : Program Op Answer α) :
    program.Runs (program.eval environment).1 (program.eval environment).2 := by
  induction program with
  | done value => exact .done value
  | call op next ih => exact .call (ih (environment op))

lemma runs_bind {program : Program Op Answer α} {next : α → Program Op Answer β}
    {events : List (Event Answer)} {value : β} : (program.bind next).Runs events value ↔
      ∃ found first second, program.Runs first found ∧ (next found).Runs second value ∧
        events = first ++ second := by
  constructor
  · induction program generalizing events with
    | done found =>
      intro run
      exact ⟨found, [], events, .done found, run, rfl⟩
    | call op rest ih =>
      intro run
      cases run with
      | call run =>
        obtain ⟨found, first, second, head, tail, rfl⟩ := ih _ run
        exact ⟨found, _ :: first, second, .call head, tail, rfl⟩
  · rintro ⟨found, first, second, head, tail, rfl⟩
    induction head with
    | done found => exact tail
    | call _ ih => exact .call (ih tail)

end Program

def Action (Op : Type) (Answer : Op → Type) (σ ε α : Type) : Type :=
  σ → Program Op Answer (Except ε α × σ)

namespace Action

variable {Op : Type} {Answer : Op → Type} {σ ε α β : Type}

def raise (error : ε) : Action Op Answer σ ε α := fun state => .done (.error error, state)

def ofExcept (result : Except ε α) : Action Op Answer σ ε α := fun state => .done (result, state)

def ask (op : Op) : Action Op Answer σ ε (Answer op) :=
  fun state => .call op fun answer => .done (.ok answer, state)

def read : Action Op Answer σ ε σ := fun state => .done (.ok state, state)

def write (state : σ) : Action Op Answer σ ε Unit := fun _ => .done (.ok (), state)

def attempt (action : Action Op Answer σ ε α) : Action Op Answer σ ε (Except ε α) :=
  fun state => (action state).bind fun outcome => .done (.ok outcome.1, outcome.2)

instance : Monad (Action Op Answer σ ε) where
  pure value := fun state => .done (.ok value, state)
  bind action next := fun state => (action state).bind fun outcome =>
    match outcome.1 with
    | .error error => .done (.error error, outcome.2)
    | .ok value => next value outcome.2

/-- From `before` the action asked for the events, and ended in `after` with the result. -/
def Runs (action : Action Op Answer σ ε α) (before : σ) (events : List (Event Answer))
    (result : Except ε α) (after : σ) : Prop :=
  (action before).Runs events (result, after)

variable {before after : σ} {events : List (Event Answer)}

lemma runs_done {outcome : Except ε α} {state : σ} {result : Except ε α} :
    (Program.done (outcome, state) : Program Op Answer _).Runs events (result, after) ↔
      events = [] ∧ result = outcome ∧ after = state := by
  constructor
  · intro run
    cases run
    exact ⟨rfl, rfl, rfl⟩
  · rintro ⟨rfl, rfl, rfl⟩
    exact .done _

@[simp] lemma runs_pure {value : α} {result : Except ε α} :
    (pure value : Action Op Answer σ ε α).Runs before events result after ↔
      events = [] ∧ result = .ok value ∧ after = before := runs_done

@[simp] lemma runs_raise {error : ε} {result : Except ε α} :
    (raise error : Action Op Answer σ ε α).Runs before events result after ↔
      events = [] ∧ result = .error error ∧ after = before := runs_done

@[simp] lemma runs_ofExcept {outcome result : Except ε α} :
    (ofExcept outcome : Action Op Answer σ ε α).Runs before events result after ↔
      events = [] ∧ result = outcome ∧ after = before := runs_done

@[simp] lemma runs_read {result : Except ε σ} :
    (read : Action Op Answer σ ε σ).Runs before events result after ↔
      events = [] ∧ result = .ok before ∧ after = before := runs_done

@[simp] lemma runs_write {state : σ} {result : Except ε Unit} :
    (write state : Action Op Answer σ ε Unit).Runs before events result after ↔
      events = [] ∧ result = .ok () ∧ after = state := runs_done

@[simp] lemma runs_ask {op : Op} {result : Except ε (Answer op)} :
    (ask op : Action Op Answer σ ε (Answer op)).Runs before events result after ↔
      ∃ answer, events = [⟨op, answer⟩] ∧ result = .ok answer ∧ after = before := by
  constructor
  · intro run
    cases run with
    | call rest =>
      obtain ⟨rfl, rfl, rfl⟩ := runs_done.1 rest
      exact ⟨_, rfl, rfl, rfl⟩
  · rintro ⟨answer, rfl, rfl, rfl⟩
    exact .call (.done _)

lemma runs_bind {action : Action Op Answer σ ε α} {next : α → Action Op Answer σ ε β}
    {result : Except ε β} : (action >>= next).Runs before events result after ↔
      (∃ error, action.Runs before events (.error error) after ∧ result = .error error) ∨
      ∃ value middle first second, action.Runs before first (.ok value) middle ∧
        (next value).Runs middle second result after ∧ events = first ++ second := by
  constructor
  · intro run
    obtain ⟨⟨outcome, middle⟩, first, second, head, tail, rfl⟩ := Program.runs_bind.1 run
    cases outcome with
    | error error =>
      obtain ⟨rfl, rfl, rfl⟩ := runs_done.1 tail
      rw [List.append_nil]
      exact .inl ⟨error, head, rfl⟩
    | ok value => exact .inr ⟨value, middle, first, second, head, tail, rfl⟩
  · rintro (⟨error, head, rfl⟩ | ⟨value, middle, first, second, head, tail, rfl⟩)
    · exact Program.runs_bind.2
        ⟨(.error error, after), events, [], head, .done _, (List.append_nil events).symm⟩
    · exact Program.runs_bind.2 ⟨(.ok value, middle), first, second, head, tail, rfl⟩

lemma runs_attempt {action : Action Op Answer σ ε α} {result : Except ε (Except ε α)} :
    action.attempt.Runs before events result after ↔
      ∃ outcome, action.Runs before events outcome after ∧ result = .ok outcome := by
  constructor
  · intro run
    obtain ⟨⟨outcome, middle⟩, first, second, head, tail, rfl⟩ := Program.runs_bind.1 run
    obtain ⟨rfl, rfl, rfl⟩ := runs_done.1 tail
    rw [List.append_nil]
    exact ⟨outcome, head, rfl⟩
  · rintro ⟨outcome, head, rfl⟩
    exact Program.runs_bind.2
      ⟨(outcome, after), events, [], head, .done _, (List.append_nil events).symm⟩

lemma runs_attempt_bind {action : Action Op Answer σ ε α}
    {next : Except ε α → Action Op Answer σ ε β} {result : Except ε β}
    (run : (action.attempt >>= next).Runs before events result after) :
    ∃ outcome middle first second, action.Runs before first outcome middle ∧
      (next outcome).Runs middle second result after ∧ events = first ++ second := by
  obtain ⟨_, impossible, _⟩ | ⟨outcome, middle, first, second, head, tail, rfl⟩ :=
    runs_bind.1 run
  · obtain ⟨_, _, raised⟩ := runs_attempt.1 impossible
    cases raised
  obtain ⟨inner, head, kept⟩ := runs_attempt.1 head
  cases kept
  exact ⟨outcome, middle, first, second, head, tail, rfl⟩

lemma runs_eval (action : Action Op Answer σ ε α) (before : σ)
    (environment : (op : Op) → Answer op) : action.Runs before ((action before).eval environment).1
      ((action before).eval environment).2.1 ((action before).eval environment).2.2 :=
  Program.runs_eval environment (action before)

def Only (allowed : Op → Prop) (action : Action Op Answer σ ε α) : Prop :=
  ∀ before events result after, action.Runs before events result after →
    ∀ event ∈ events, allowed event.op

variable {allowed : Op → Prop}

lemma only_pure (value : α) : Only allowed (pure value : Action Op Answer σ ε α) := by
  intro before events result after run event mem
  obtain ⟨rfl, _, _⟩ := runs_pure.1 run
  cases mem

lemma only_raise (error : ε) : Only allowed (raise error : Action Op Answer σ ε α) := by
  intro before events result after run event mem
  obtain ⟨rfl, _, _⟩ := runs_raise.1 run
  cases mem

lemma only_ofExcept (outcome : Except ε α) :
    Only allowed (ofExcept outcome : Action Op Answer σ ε α) := by
  intro before events result after run event mem
  obtain ⟨rfl, _, _⟩ := runs_ofExcept.1 run
  cases mem

lemma only_read : Only allowed (read : Action Op Answer σ ε σ) := by
  intro before events result after run event mem
  obtain ⟨rfl, _, _⟩ := runs_read.1 run
  cases mem

lemma only_write (state : σ) : Only allowed (write state : Action Op Answer σ ε Unit) := by
  intro before events result after run event mem
  obtain ⟨rfl, _, _⟩ := runs_write.1 run
  cases mem

lemma only_ask {op : Op} (holds : allowed op) :
    Only allowed (ask op : Action Op Answer σ ε (Answer op)) := by
  intro before events result after run event mem
  obtain ⟨answer, rfl, _, _⟩ := runs_ask.1 run
  rw [List.mem_singleton] at mem
  rw [mem]
  exact holds

lemma only_bind {action : Action Op Answer σ ε α} {next : α → Action Op Answer σ ε β}
    (first : Only allowed action) (rest : ∀ value, Only allowed (next value)) :
    Only allowed (action >>= next) := by
  intro before events result after run event mem
  obtain ⟨error, head, _⟩ | ⟨value, middle, early, late, head, tail, rfl⟩ := runs_bind.1 run
  · exact first _ _ _ _ head event mem
  obtain mem | mem := List.mem_append.1 mem
  · exact first _ _ _ _ head event mem
  exact rest value _ _ _ _ tail event mem

lemma only_attempt {action : Action Op Answer σ ε α} (inner : Only allowed action) :
    Only allowed action.attempt := by
  intro before events result after run event mem
  obtain ⟨outcome, head, _⟩ := runs_attempt.1 run
  exact inner _ _ _ _ head event mem

end Action

end Obsion.Lib
