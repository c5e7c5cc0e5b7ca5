import Mathlib.Tactic

/-! # Transition systems and their finite runs

A system is a set of initial states and a labelled step relation.  A run is
recorded as the list of its moves, so that a property of a run can speak of the
state before and after each of them.  `Path.preserved` is the invariant rule;
`Path.preservedWhere` is the same rule for runs whose moves all satisfy a side
condition; `Path.exists_breaking_move` locates the first move that leaves a
set of states. -/

namespace Obsion.Lib

structure System (State Action : Type) where
  init : State → Prop
  step : State → Action → State → Prop

structure Move (State Action : Type) where
  before : State
  action : Action
  after : State

section
variable {State Action : Type}

/-- The moves of a run, in order, from one state to another. -/
inductive Path (system : System State Action) : State → List (Move State Action) → State → Prop
  | nil (state : State) : Path system state [] state
  | cons {before after final : State} {moves : List (Move State Action)} (action : Action)
      (first : system.step before action after) (rest : Path system after moves final) :
      Path system before (⟨before, action, after⟩ :: moves) final

def Reachable (system : System State Action) (state : State) : Prop :=
  ∃ start moves, system.init start ∧ Path system start moves state

/-- A state reached by moves that all satisfy the side condition. -/
def ReachableWhere (system : System State Action) (allowed : Move State Action → Prop)
    (state : State) : Prop :=
  ∃ start moves, system.init start ∧ Path system start moves state ∧ ∀ move ∈ moves, allowed move

variable {system : System State Action}

variable {first last state : State} {before after moves : List (Move State Action)}
  {allowed : Move State Action → Prop} {Holds : State → Prop}

lemma Path.append {middle : State} (left : Path system first before middle)
    (right : Path system middle after last) :
    Path system first (before ++ after) last := by
  induction left with
  | nil state => exact right
  | cons action step rest ih => exact Path.cons action step (ih right)

lemma Path.split (path : Path system first (before ++ after) last) :
    ∃ middle, Path system first before middle ∧ Path system middle after last := by
  induction before generalizing first with
  | nil => exact ⟨first, Path.nil first, path⟩
  | cons move rest ih =>
    cases path with
    | cons action step tail =>
      obtain ⟨middle, left, right⟩ := ih tail
      exact ⟨middle, Path.cons action step left, right⟩

variable {move : Move State Action}

lemma Path.split_move (path : Path system first (before ++ move :: after) last) :
    Path system first before move.before ∧
      system.step move.before move.action move.after ∧ Path system move.after after last := by
  obtain ⟨middle, left, right⟩ := path.split
  cases right with
  | cons action step tail => exact ⟨left, step, tail⟩

lemma Path.step_of_mem (path : Path system first moves last) (mem : move ∈ moves) :
    system.step move.before move.action move.after := by
  obtain ⟨before, after, rfl⟩ := List.append_of_mem mem
  exact path.split_move.2.1

lemma Path.preservedWhere {allowed : Move State Action → Prop} {Holds : State → Prop}
    (preserved : ∀ before action after, Holds before → system.step before action after →
      allowed ⟨before, action, after⟩ → Holds after)
    {first last : State} {moves : List (Move State Action)} (path : Path system first moves last)
    (permitted : ∀ move ∈ moves, allowed move) (start : Holds first) : Holds last := by
  induction path with
  | nil state => exact start
  | cons action step rest ih =>
    exact ih (fun move mem => permitted move (List.mem_cons_of_mem _ mem))
      (preserved _ _ _ start step (permitted _ List.mem_cons_self))

lemma Path.preserved {Holds : State → Prop}
    (preserved : ∀ before action after, Holds before → system.step before action after → Holds after)
    {first last : State} {moves : List (Move State Action)} (path : Path system first moves last)
    (start : Holds first) : Holds last := by
  induction path with
  | nil state => exact start
  | cons action step rest ih => exact ih (preserved _ _ _ start step)

lemma Path.tracked {Holds : List (Move State Action) → State → Prop}
    (preserved : ∀ moves before action after, Holds moves before →
      system.step before action after → Holds (moves ++ [⟨before, action, after⟩]) after)
    {first last : State} {moves : List (Move State Action)} (path : Path system first moves last)
    (start : Holds [] first) : Holds moves last := by
  suffices later : ∀ earlier, Holds earlier first → Holds (earlier ++ moves) last from
    later [] start
  clear start
  induction path with
  | nil state =>
    intro earlier holds
    rw [List.append_nil]
    exact holds
  | cons action step rest ih =>
    intro earlier holds
    have next := ih (earlier ++ [_]) (preserved earlier _ action _ holds step)
    rwa [List.append_assoc] at next

/-- What each move does exactly where it is allowed to, every run does exactly where all its
moves are. -/
lemma Path.forall_iff {Does : Move State Action → Prop} (Holds : State → Prop)
    (once : ∀ before action after, Holds before → system.step before action after →
      (Does ⟨before, action, after⟩ ↔ allowed ⟨before, action, after⟩) ∧
        (allowed ⟨before, action, after⟩ → Holds after))
    (path : Path system first moves last) (start : Holds first) :
    (∀ move ∈ moves, Does move) ↔ ∀ move ∈ moves, allowed move := by
  induction path with
  | nil state => simp
  | cons action step rest ih =>
    obtain ⟨same, next⟩ := once _ _ _ start step
    rw [List.forall_mem_cons, List.forall_mem_cons, same]
    exact and_congr_right fun head => ih (next head)

lemma Reachable.holds (reached : Reachable system state)
    (initially : ∀ start, system.init start → Holds start)
    (preserved : ∀ before action after, Holds before → system.step before action after →
      Holds after) : Holds state := by
  obtain ⟨start, moves, initial, path⟩ := reached
  exact path.preserved preserved (initially start initial)

lemma ReachableWhere.holds (reached : ReachableWhere system allowed state)
    (initially : ∀ start, system.init start → Holds start)
    (preserved : ∀ before action after, Holds before → system.step before action after →
      allowed ⟨before, action, after⟩ → Holds after) : Holds state := by
  obtain ⟨start, moves, initial, path, permitted⟩ := reached
  exact path.preservedWhere preserved permitted (initially start initial)

lemma Path.reachable {start : State} (path : Path system start moves state)
    (initial : system.init start) : Reachable system state :=
  ⟨start, moves, initial, path⟩

lemma Reachable.extend (reached : Reachable system first) (path : Path system first moves last) :
    Reachable system last := by
  obtain ⟨start, earlier, initial, before⟩ := reached
  exact ⟨start, earlier ++ moves, initial, before.append path⟩

lemma Path.exists_breaking_move (path : Path system first moves last) (start : Holds first)
    (finish : ¬ Holds last) :
    ∃ before move after, moves = before ++ move :: after ∧ Path system first before move.before ∧
      (∀ earlier ∈ before, Holds earlier.after) ∧ Holds move.before ∧ ¬ Holds move.after := by
  induction path with
  | nil state => exact absurd start finish
  | @cons origin next final moves action step rest ih =>
    by_cases kept : Holds next
    · obtain ⟨before, move, after, split, prefixPath, earlier, holds, breaks⟩ := ih kept finish
      refine ⟨⟨origin, action, next⟩ :: before, move, after, by rw [split]; rfl,
        Path.cons action step prefixPath, ?_, holds, breaks⟩
      intro entry mem
      rcases List.mem_cons.1 mem with rfl | tailMember
      · exact kept
      exact earlier entry tailMember
    · exact ⟨[], ⟨origin, action, next⟩, moves, rfl, Path.nil origin, nofun, start, kept⟩

end

section
variable {State Action Abstract Label : Type}

def Move.map (abs : State → Abstract) (label : Move State Action → Label)
    (move : Move State Action) : Move Abstract Label :=
  ⟨abs move.before, label move, abs move.after⟩

/-- Runs of a system are mapped to runs of a system that simulates it, move by
move, as long as the invariant the simulation relies on holds initially. -/
lemma Path.simulate {concrete : System State Action} {abstract : System Abstract Label}
    {abs : State → Abstract} {label : Move State Action → Label} {Holds : State → Prop}
    (preserved : ∀ before action after, Holds before → concrete.step before action after → Holds after)
    (simulated : ∀ before action after, Holds before → concrete.step before action after →
      abstract.step (abs before) (label ⟨before, action, after⟩) (abs after))
    {first last : State} {moves : List (Move State Action)} (path : Path concrete first moves last)
    (start : Holds first) :
    Path abstract (abs first) (moves.map (Move.map abs label)) (abs last) := by
  induction path with
  | nil state => exact Path.nil (abs state)
  | cons action step rest ih =>
    exact Path.cons _ (simulated _ _ _ start step) (ih (preserved _ _ _ start step))

end

section
variable {State Action : Type}

/-- `perform state action` is `none` where the action is not enabled. -/
def System.ofPartial (init : State → Prop) (perform : State → Action → Option State) :
    System State Action where
  init := init
  step before action after := perform before action = some after

def replay (perform : State → Action → Option State) :
    State → List Action → Option (List (Move State Action) × State)
  | state, [] => some ([], state)
  | state, action :: rest =>
    match perform state action with
    | none => none
    | some next =>
      (replay perform next rest).map fun found => (⟨state, action, next⟩ :: found.1, found.2)

lemma Path.of_replay {init : State → Prop} {perform : State → Action → Option State}
    {first last : State} {actions : List Action} {moves : List (Move State Action)}
    (run : replay perform first actions = some (moves, last)) :
    Path (System.ofPartial init perform) first moves last := by
  induction actions generalizing first moves with
  | nil =>
    simp only [replay, Option.some.injEq, Prod.mk.injEq] at run
    obtain ⟨rfl, rfl⟩ := run
    exact Path.nil first
  | cons action rest ih =>
    simp only [replay] at run
    split at run
    · cases run
    next after performed =>
    obtain ⟨found, replayed, eq⟩ := Option.map_eq_some_iff.1 run
    simp only [Prod.mk.injEq] at eq
    obtain ⟨rfl, rfl⟩ := eq
    exact Path.cons action performed (ih replayed)

end

end Obsion.Lib
