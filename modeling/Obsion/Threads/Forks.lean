import Obsion.Threads.Stable

/-! # When every history resolves

In a run, every thread resolves after every move, with the ordinals `1..n`, exactly when
no move forks a thread whose chain of parents is as long as the resolver admits. -/

namespace Obsion.Threads

open Obsion.Lib

/-- Every thread resolves, for every principal that may read its workspace. -/
def ResolvesAll (database : Database) : Prop :=
  ∀ thread ∈ database.threads, ∀ reads : Uuid → Bool, reads thread.workspaceId = true →
    ∃ turns, resolve database reads thread = .ok turns ∧ Numbered turns

structure StableMove (move : Move World Action) : Prop where
  resolves : ResolvesAll move.after.database
  kept : ∀ thread ∈ move.before.database.threads, ∀ reads : Uuid → Bool,
    reads thread.workspaceId = true → ∀ turns, resolve move.before.database reads thread = .ok turns →
      ∃ later ∈ move.after.database.threads, later.id = thread.id ∧
        ∃ more, resolve move.after.database reads later = .ok (turns ++ more) ∧
          (more ≠ [] → move.action.target = some thread.id)

/-- A fork starts with what its parent had up to the fork point when it was forked. -/
def ForksKept (moves : List (Move World Action)) (world : World) : Prop :=
  ∀ earlier move later, moves = earlier ++ move :: later → ∀ caller threadId fromTurnId title id,
      move.action = .forkThread caller threadId fromTurnId title id →
      ∃ parent ∈ move.before.database.threads, ∃ thread ∈ world.database.threads,
        parent.id = threadId ∧ thread.id = id ∧ ∀ reads : Uuid → Bool, reads parent.workspaceId = true →
          ∃ turns inherited more, resolve move.before.database reads parent = .ok turns ∧
            inheritedAt Turn.id (forkPoint fromTurnId turns) turns = some inherited ∧
            resolve world.database reads thread = .ok (inherited ++ more)

/-- The move forks no thread whose lineage has the greatest supported depth. -/
def Fits (move : Move World Action) : Prop :=
  ∀ caller threadId fromTurnId title id, move.action = .forkThread caller threadId fromTurnId title id →
    ∀ depth turns, History (forest move.before.database) threadId depth turns → depth < maxLineageDepth

structure Shallow (database : Database) : Prop extends Grown database where
  bounded : ∀ thread ∈ database.threads, ∀ depth turns,
    History (forest database) thread.id depth turns → depth ≤ maxLineageDepth

lemma Shallow.resolvesAll {database : Database} (shallow : Shallow database) :
    ResolvesAll database := by
  intro thread stored reads readable
  obtain ⟨depth, turns, history, numbered⟩ := shallow.resolved thread stored
  have fits := shallow.bounded thread stored depth turns history
  exact ⟨turns, (resolve_eq_ok_iff shallow.toGrown stored readable).2 ⟨depth, fits, history⟩, numbered⟩

variable {world start : World} {moves : List (Move World Action)}

lemma grown_of_blank (blank : Blank world) : Shallow world.database := by
  have absent : ∀ thread, thread ∉ world.database.threads := by
    intro thread
    rw [blank.1]
    exact Table.notMem_empty thread
  have silent : ∀ turn, turn ∉ world.database.turns := by
    intro turn
    rw [blank.2.1]
    exact Table.notMem_empty turn
  refine ⟨⟨?_, ?_, ?_, ?_⟩, ?_⟩
  · exact fun thread stored => absurd stored (absent thread)
  · exact fun thread stored => absurd stored (absent thread)
  · intro threadId
    rw [blank.2.1]
    exact List.Pairwise.nil
  · exact fun turn stored => absurd stored (silent turn)
  · exact fun thread stored => absurd stored (absent thread)

variable {depth : Nat} {turns : List Turn} {move : Move World Action}

lemma depth_of_grows {before after : Database} {target : Option Uuid} (shallow : Shallow before)
    (grows : Grows before after target) {id : Uuid}
    (stored : ∃ former ∈ before.threads, former.id = id)
    (history : History (forest after) id depth turns) : depth ≤ maxLineageDepth := by
  obtain ⟨former, formerIn, rfl⟩ := stored
  obtain ⟨above, entries, known, -⟩ := shallow.resolved former formerIn
  obtain ⟨more, next, -⟩ := grows.histories former formerIn above entries known
  obtain ⟨rfl, -⟩ := history.unique next
  exact shallow.bounded former formerIn _ _ known

lemma shallow_of_perform {after : World} {action : Action} (shallow : Shallow world.database)
    (run : perform world action = some after) (fits : Fits ⟨world, action, after⟩) :
    Shallow after.database := by
  obtain ⟨grown, grows⟩ := perform_grows shallow.toGrown run
  refine ⟨grown, ?_⟩
  intro thread stored depth turns history
  have former := fun exists_ => depth_of_grows shallow grows exists_ history
  cases action with
  | elapse duration =>
    cases run
    exact former ⟨thread, stored, rfl⟩
  | createThread caller workspaceId title id =>
    obtain ⟨database, performed, rfl⟩ := Option.map_eq_some_iff.1 run
    obtain ⟨-, -, added⟩ := createThread_spec shallow.toGrown (ok_of_toOption performed)
    by_cases known : thread ∈ world.database.threads
    · exact former ⟨thread, known, rfl⟩
    obtain ⟨rfl, -⟩ := history.unique (added thread stored known)
    decide
  | createTurn caller threadId input env turnId runId =>
    obtain ⟨database, performed, rfl⟩ := Option.map_eq_some_iff.1 run
    obtain ⟨-, -, eq⟩ := createTurn_spec shallow.toGrown (ok_of_toOption performed)
    exact former ⟨thread, eq ▸ stored, rfl⟩
  | forkThread caller threadId fromTurnId title id =>
    obtain ⟨database, performed, rfl⟩ := Option.map_eq_some_iff.1 run
    obtain ⟨-, -, split, above, entries, inherited, parent, -, -, forked⟩ :=
      forkThread_spec shallow.toGrown (ok_of_toOption performed)
    rcases split thread stored with known | rfl
    · exact former known
    obtain ⟨rfl, -⟩ := history.unique forked
    exact fits caller threadId fromTurnId title _ rfl above entries parent
  | archiveThread caller threadId =>
    obtain ⟨database, performed, rfl⟩ := Option.map_eq_some_iff.1 run
    obtain ⟨-, -, known⟩ := archiveThread_spec shallow.toGrown (ok_of_toOption performed)
    exact former (known thread stored)
  | resumeThread caller threadId =>
    obtain ⟨database, performed, rfl⟩ := Option.map_eq_some_iff.1 run
    obtain ⟨-, -, known⟩ := resumeThread_spec shallow.toGrown (ok_of_toOption performed)
    exact former (known thread stored)
  | moveRun runId target =>
    obtain ⟨database, performed, rfl⟩ := Option.map_eq_some_iff.1 run
    obtain ⟨moved, -, performed⟩ := Option.bind_eq_some_iff.1 performed
    split at performed
    · cases performed
      exact former ⟨thread, stored, rfl⟩
    cases performed

lemma grown_of_path (path : Path threads start moves world) (grown : Grown start.database) :
    Grown world.database := by
  induction path with
  | nil state => exact grown
  | cons action step rest ih => exact ih (perform_grows grown step).1

lemma shallow_of_path (path : Path threads start moves world) (shallow : Shallow start.database)
    (fits : ∀ move ∈ moves, Fits move) : Shallow world.database := by
  induction path with
  | nil state => exact shallow
  | cons action step rest ih =>
    exact ih (shallow_of_perform shallow step (fits _ List.mem_cons_self))
      fun move mem => fits move (List.mem_cons_of_mem _ mem)

lemma history_of_path (path : Path threads start moves world) (grown : Grown start.database)
    {thread : Thread} (stored : thread ∈ start.database.threads)
    (history : History (forest start.database) thread.id depth turns) :
    ∃ later ∈ world.database.threads, later.id = thread.id ∧ later.workspaceId = thread.workspaceId ∧
      ∃ more, History (forest world.database) later.id depth (turns ++ more) := by
  induction path generalizing thread turns with
  | nil state => exact ⟨thread, stored, rfl, rfl, [], by rwa [List.append_nil]⟩
  | cons action step rest ih =>
    obtain ⟨next, grows⟩ := perform_grows grown step
    obtain ⟨more, longer, -⟩ := grows.histories thread stored depth turns history
    obtain ⟨middle, middleIn, id, workspace⟩ := grows.threads thread stored
    obtain ⟨later, laterIn, sameId, sameWorkspace, further, last⟩ :=
      ih next middleIn (id ▸ longer)
    refine ⟨later, laterIn, sameId.trans id, sameWorkspace.trans workspace, more ++ further, ?_⟩
    rwa [← List.append_assoc]

lemma stableMove_of_shallow (before : Shallow move.before.database)
    (after : Shallow move.after.database)
    (grows : Grows move.before.database move.after.database move.action.target) :
    StableMove move := by
  refine ⟨after.resolvesAll, ?_⟩
  intro thread stored reads readable turns resolved
  obtain ⟨depth, fits, history⟩ :=
    (resolve_eq_ok_iff before.toGrown stored readable).1 resolved
  obtain ⟨more, longer, grew⟩ := grows.histories thread stored depth turns history
  obtain ⟨later, laterIn, id, workspace⟩ := grows.threads thread stored
  refine ⟨later, laterIn, id, more, ?_, grew⟩
  exact (resolve_eq_ok_iff after.toGrown laterIn (workspace ▸ readable)).2
    ⟨depth, fits, id ▸ longer⟩

lemma forksKept_of_fits (shallow : Shallow start.database) (path : Path threads start moves world)
    (fits : ∀ move ∈ moves, Fits move) : ForksKept moves world := by
  rintro earlier ⟨before, action, after⟩ later rfl caller threadId fromTurnId title id eq
  obtain ⟨first, step, rest⟩ := path.split_move
  have before_ : Shallow before.database := shallow_of_path first shallow fun move mem =>
    fits move (List.mem_append_left _ mem)
  have final := shallow_of_path path shallow fits
  dsimp only at eq step
  subst eq
  obtain ⟨database, performed, rfl⟩ := Option.map_eq_some_iff.1 step
  obtain ⟨grown, -, -, depth, turns, inherited, history, cut, parents, forked⟩ :=
    forkThread_spec before_.toGrown (ok_of_toOption performed)
  obtain ⟨parent, parentIn, thread, threadIn, rfl, rfl, located⟩ := parents
  obtain ⟨fork, forkIn, id, workspace, more, longer⟩ :=
    history_of_path rest grown threadIn forked
  refine ⟨parent, parentIn, fork, forkIn, rfl, id, ?_⟩
  intro reads readable
  have parentFits := before_.bounded parent parentIn depth turns history
  have forkFits := final.bounded fork forkIn _ _ longer
  refine ⟨turns, inherited, more, ?_, cut, ?_⟩
  · exact (resolve_eq_ok_iff before_.toGrown parentIn readable).2 ⟨depth, parentFits, history⟩
  refine (resolve_eq_ok_iff final.toGrown forkIn ?_).2 ⟨_, forkFits, longer⟩
  rw [workspace, located]
  exact readable

lemma fits_of_resolvesAll (grown : Grown move.before.database)
    (step : perform move.before move.action = some move.after)
    (resolves : ResolvesAll move.after.database) : Fits move := by
  intro caller threadId fromTurnId title id eq depth turns history
  rw [eq] at step
  obtain ⟨database, performed, equal⟩ := Option.map_eq_some_iff.1 step
  rw [← equal] at resolves
  obtain ⟨-, -, -, above, entries, inherited, known, -, parents, forked⟩ :=
    forkThread_spec grown (ok_of_toOption performed)
  obtain ⟨rfl, -⟩ := history.unique known
  obtain ⟨parent, -, thread, threadIn, -, rfl, -⟩ := parents
  obtain ⟨found, resolved, -⟩ := resolves thread threadIn (fun _ => true) rfl
  obtain ⟨room, fits, again⟩ := history_of_effectiveTurns threadIn resolved
  obtain ⟨rfl, -⟩ := again.unique forked
  exact fits

theorem histories_stable_iff {start world : World} {moves : List (Move World Action)}
    (blank : Blank start) (path : Path threads start moves world) :
    (∀ move ∈ moves, Fits move) ↔ (∀ move ∈ moves, StableMove move) ∧ ForksKept moves world := by
  have initially := grown_of_blank blank
  constructor
  · intro fits
    refine ⟨?_, forksKept_of_fits initially path fits⟩
    intro move member
    obtain ⟨earlier, later, rfl⟩ := List.append_of_mem member
    obtain ⟨first, step, -⟩ := path.split_move
    have before : Shallow move.before.database := shallow_of_path first initially
      fun other otherIn => fits other (List.mem_append_left _ otherIn)
    have after : Shallow move.after.database := shallow_of_perform before step (fits move member)
    exact stableMove_of_shallow before after (perform_grows before.toGrown step).2
  · rintro ⟨stable, -⟩ move member
    obtain ⟨earlier, later, rfl⟩ := List.append_of_mem member
    obtain ⟨first, step, -⟩ := path.split_move
    exact fits_of_resolvesAll (grown_of_path first initially.toGrown) step (stable move member).resolves

def sampleId (number : Nat) : Uuid :=
  ⟨Fin.ofNat 16 number :: Fin.ofNat 16 (number / 16) :: List.replicate 30 0, rfl⟩

def sampleCaller : Caller := ⟨⟨sampleId 100, sampleId 101, []⟩, fun _ => true, fun _ => true⟩

def sampleForks (count : Nat) : List Action :=
  .createThread sampleCaller (sampleId 102) "Incident" (sampleId 0) ::
    (List.range count).map fun number =>
      .forkThread sampleCaller (sampleId number) none (some "Fork") (sampleId (number + 1))

def sampleStart : World := ⟨0, ⟨.empty, .empty, .empty⟩⟩

/-- Whether a run of the actions ends with a thread that is too deep to resolve. -/
def endsUnresolvable (actions : List Action) : Bool :=
  (replay perform sampleStart actions).any fun found =>
    found.2.database.threads.rows.any fun thread =>
      match resolve found.2.database (fun _ => true) thread with
      | .error error => error = lineageInvalid
      | .ok _ => false

/-- The thirty-second fork of the chain is committed and does not resolve. -/
theorem fork_unresolvable : ∃ world thread, Reachable threads world ∧ thread ∈ world.database.threads ∧
      resolve world.database (fun _ => true) thread = .error lineageInvalid := by
  have run : endsUnresolvable (sampleForks 32) = true := by decide +kernel
  obtain ⟨⟨moves, world⟩, replayed, found⟩ := (Option.any_eq_true _ _).1 run
  obtain ⟨thread, stored, check⟩ := List.any_eq_true.1 found
  refine ⟨world, thread, ⟨sampleStart, moves, ⟨rfl, rfl, rfl⟩, Path.of_replay replayed⟩, stored, ?_⟩
  split at check
  · next raised => rw [raised, of_decide_eq_true check]
  cases check

theorem histories_stable_sample : ∃ moves world, Path threads sampleStart moves world ∧
    moves.length = 4 ∧ ((∀ move ∈ moves, Fits move) ↔
        (∀ move ∈ moves, StableMove move) ∧ ForksKept moves world) := by
  obtain ⟨moves, world, replayed, size⟩ : ∃ moves world,
      replay perform sampleStart (sampleForks 3) = some (moves, world) ∧ moves.length = 4 :=
    ⟨_, _, rfl, rfl⟩
  have path : Path threads sampleStart moves world := Path.of_replay replayed
  exact ⟨moves, world, path, size, histories_stable_iff ⟨rfl, rfl, rfl⟩ path⟩

end Obsion.Threads
