import Obsion.Threads.Histories

/-! # Histories over whole runs

Every operation keeps `Grown`, keeps the history of every thread but the one it adds a
turn to, and gives a fork the history of its parent up to the fork point.  What an
operation can break is the depth: `fork_thread` resolves the parent and adds a thread
that is one deeper. -/

namespace Obsion.Threads

open Obsion.Lib

/-- What an operation keeps: the threads, and their histories up to turns added to one. -/
structure Grows (before after : Database) (target : Option Uuid) : Prop where
  threads : ∀ thread ∈ before.threads, ∃ later ∈ after.threads,
    later.id = thread.id ∧ later.workspaceId = thread.workspaceId
  histories : ∀ thread ∈ before.threads, ∀ depth turns,
    History (forest before) thread.id depth turns →
      ∃ more, History (forest after) thread.id depth (turns ++ more) ∧
        (more ≠ [] → target = some thread.id)

variable {before after database : Database} {thread changed : Thread} {id threadId : Uuid}
  {threads : Table Thread.id} {depth : Nat} {turns : List Turn} {caller : Caller} {turn : Turn}
  {now : Time}

lemma Grows.of_forest {target : Option Uuid}
    (threads : ∀ thread ∈ before.threads, ∃ later ∈ after.threads,
      later.id = thread.id ∧ later.workspaceId = thread.workspaceId)
    (eq : forest after = forest before) : Grows before after target := by
  refine ⟨threads, ?_⟩
  intro thread stored depth turns history
  refine ⟨[], ?_, fun more => absurd rfl more⟩
  rw [List.append_nil, eq]
  exact history

lemma Grows.refl (database : Database) (target : Option Uuid) : Grows database database target :=
  .of_forest (fun thread stored => ⟨thread, stored, rfl, rfl⟩) rfl

lemma Grows.trans {first second third : Database} {target : Option Uuid}
    (left : Grows first second target) (right : Grows second third target) :
    Grows first third target := by
  constructor
  · intro thread stored
    obtain ⟨middle, middleIn, id, workspace⟩ := left.threads thread stored
    obtain ⟨later, laterIn, sameId, sameWorkspace⟩ := right.threads middle middleIn
    exact ⟨later, laterIn, sameId.trans id, sameWorkspace.trans workspace⟩
  · intro thread stored depth turns history
    obtain ⟨more, next, grew⟩ := left.histories thread stored depth turns history
    obtain ⟨middle, middleIn, id, -⟩ := left.threads thread stored
    obtain ⟨further, last, grewAgain⟩ :=
      right.histories middle middleIn depth _ (id.symm ▸ next)
    refine ⟨more ++ further, ?_, ?_⟩
    · rw [← List.append_assoc, ← id]
      exact last
    intro nonempty
    by_cases first : more = []
    · rw [first, List.nil_append] at nonempty
      rw [grewAgain nonempty, id]
    exact grew first

lemma insert_eq_ok {Row Key : Type} [DecidableEq Key] {key : Row → Key} {table after : Table key}
    {row : Row} (run : insert table row = .ok after) : table.insert? row = some after := by
  unfold insert at run
  split at run
  · cases run
  next inserted =>
  cases run
  exact inserted

lemma refuse_eq_ok {α : Type} {result : Except ObsionError α} {value : α}
    (run : refuse result = .ok value) : result = .ok value := by
  cases result with
  | error error => cases run
  | ok found =>
    cases run
    rfl

lemma forest_put (stored : thread ∈ database.threads) (id : changed.id = thread.id)
    (parent : changed.parentThreadId = thread.parentThreadId)
    (point : changed.forkedFromTurnId = thread.forkedFromTurnId) :
    forest { database with threads := database.threads.put changed } = forest database := by
  have origin : (forest { database with threads := database.threads.put changed }).origin =
      (forest database).origin := by
    funext wanted
    simp only [forest, Table.get?_put]
    split
    · next eq =>
      rw [← eq, id, Table.get?_eq_some.2 ⟨stored, rfl⟩, Option.bind_some, Option.bind_some,
        parent, point]
    · rfl
  exact congrArg (fun origin => Forest.mk origin (localTurns database) Turn.id) origin

variable {table : Table Thread.id} {fromTurnId : Option Uuid}

lemma mem_put_of_stored (workspace : ∀ former ∈ table, former.id = changed.id →
      changed.workspaceId = former.workspaceId)
    (stored : thread ∈ table) :
    ∃ later ∈ table.put changed, later.id = thread.id ∧ later.workspaceId = thread.workspaceId := by
  by_cases eq : thread.id = changed.id
  · exact ⟨changed, Table.mem_put_self, eq.symm, workspace thread stored eq⟩
  exact ⟨thread, Table.mem_put.2 (Or.inr ⟨stored, eq⟩), rfl, rfl⟩

lemma grown_put (grown : Grown database) (stored : thread ∈ database.threads)
    (id : changed.id = thread.id) (workspace : changed.workspaceId = thread.workspaceId)
    (parent : changed.parentThreadId = thread.parentThreadId)
    (point : changed.forkedFromTurnId = thread.forkedFromTurnId) (target : Option Uuid) :
    Grown { database with threads := database.threads.put changed } ∧
      Grows database { database with threads := database.threads.put changed } target ∧
      ∀ row ∈ database.threads.put changed, ∃ former ∈ database.threads, former.id = row.id := by
  have eq := forest_put stored id parent point
  have kept : ∀ row ∈ database.threads, ∃ later ∈ database.threads.put changed,
      later.id = row.id ∧ later.workspaceId = row.workspaceId := by
    intro row rowIn
    refine mem_put_of_stored ?_ rowIn
    intro former formerIn keyed
    rw [Table.eq_of_key formerIn stored (keyed.trans id)]
    exact workspace
  have origins : ∀ row ∈ database.threads.put changed, ∃ former ∈ database.threads,
      row.id = former.id ∧ row.workspaceId = former.workspaceId ∧
        row.parentThreadId = former.parentThreadId := by
    intro row mem
    rcases Table.mem_put.1 mem with rfl | ⟨stays, -⟩
    · exact ⟨thread, stored, id, workspace, parent⟩
    exact ⟨row, stays, rfl, rfl, rfl⟩
  refine ⟨⟨?_, ?_, grown.ordered, ?_⟩, .of_forest kept eq, ?_⟩
  · intro row mem
    obtain ⟨former, formerIn, keyed, -, -⟩ := origins row mem
    rw [eq, keyed]
    exact grown.resolved former formerIn
  · intro row mem parentId forked
    obtain ⟨former, formerIn, -, located, lineage⟩ := origins row mem
    obtain ⟨origin, originIn, named, place⟩ :=
      grown.parents former formerIn parentId (lineage ▸ forked)
    obtain ⟨later, laterIn, sameId, sameWorkspace⟩ := kept origin originIn
    exact ⟨later, laterIn, sameId.trans named, by rw [sameWorkspace, place, located]⟩
  · intro turn mem
    obtain ⟨owner, ownerIn, named⟩ := grown.owned turn mem
    obtain ⟨later, laterIn, sameId, -⟩ := kept owner ownerIn
    exact ⟨later, laterIn, sameId.trans named⟩
  · intro row mem
    obtain ⟨former, formerIn, named, -⟩ := origins row mem
    exact ⟨former, formerIn, named.symm⟩

lemma localTurns_of_unowned (grown : Grown database)
    (fresh : ∀ thread ∈ database.threads, thread.id ≠ id) : localTurns database id = [] := by
  have none_ : (database.turns.select fun turn => turn.threadId = id) = [] := by
    rw [List.eq_nil_iff_forall_not_mem]
    intro turn mem
    obtain ⟨turnIn, named⟩ := Table.mem_select.1 mem
    obtain ⟨owner, ownerIn, owns⟩ := grown.owned turn turnIn
    exact fresh owner ownerIn (owns.trans (of_decide_eq_true named))
  rw [localTurns, none_]
  rfl

lemma get?_insert_of_ne {after : Table Thread.id} (inserted : table.insert? thread = some after)
    (apart : id ≠ thread.id) :
    after.get? id = table.get? id := by
  rw [Table.get?_insert? inserted, if_neg (Ne.symm apart)]

lemma history_of_insert (grown : Grown database)
    (inserted : database.threads.insert? thread = some threads) {node : Uuid}
    (apart : node ≠ thread.id) (history : History (forest database) node depth turns) :
    History (forest { database with threads := threads }) node depth turns := by
  obtain ⟨unused, -⟩ := Table.insert?_spec inserted
  have key : (forest { database with threads := threads }).key = (forest database).key := rfl
  refine history.extend key ?_ (fun _ _ => rfl) ?_ apart
  · intro other different
    simp only [forest, get?_insert_of_ne inserted different]
  intro other parent point origin eq
  simp only [forest] at origin
  obtain ⟨row, found, lineage⟩ := Option.bind_eq_some_iff.1 origin
  obtain ⟨parentId, forked, equal⟩ := Option.map_eq_some_iff.1 lineage
  obtain ⟨rowIn, -⟩ := Table.get?_eq_some.1 found
  cases equal
  obtain ⟨parentRow, parentIn, keyed, -⟩ := grown.parents row rowIn _ forked
  exact unused parentRow parentIn (keyed.trans eq)

lemma grown_insert (grown : Grown database)
    (inserted : database.threads.insert? thread = some threads)
    (parent : ∀ parentId, thread.parentThreadId = some parentId →
      ∃ row ∈ database.threads, row.id = parentId ∧ row.workspaceId = thread.workspaceId)
    (resolved : ∃ depth turns,
      History (forest { database with threads := threads }) thread.id depth turns ∧ Numbered turns)
    (target : Option Uuid) : Grown { database with threads := threads } ∧
      Grows database { database with threads := threads } target := by
  obtain ⟨unused, rows⟩ := Table.insert?_spec inserted
  have stays : ∀ row ∈ database.threads, row ∈ threads := by
    intro row mem
    rw [Table.mem_iff, rows]
    exact List.mem_append_left _ mem
  have split : ∀ row ∈ threads, row ∈ database.threads ∨ row = thread := by
    intro row mem
    rw [Table.mem_iff, rows] at mem
    exact (List.mem_append.1 mem).imp_right List.mem_singleton.1
  have parents : ∀ row ∈ threads, ∀ parentId, row.parentThreadId = some parentId →
      ∃ origin ∈ database.threads, origin.id = parentId ∧ origin.workspaceId = row.workspaceId := by
    intro row mem parentId forked
    rcases split row mem with former | rfl
    · exact grown.parents row former parentId forked
    exact parent parentId forked
  refine ⟨⟨?_, ?_, grown.ordered, ?_⟩, ?_, ?_⟩
  · intro row mem
    rcases split row mem with former | rfl
    · obtain ⟨depth, turns, history, numbered⟩ := grown.resolved row former
      exact ⟨depth, turns, history_of_insert grown inserted (unused row former) history, numbered⟩
    exact resolved
  · intro row mem parentId forked
    obtain ⟨origin, originIn, facts⟩ := parents row mem parentId forked
    exact ⟨origin, stays origin originIn, facts⟩
  · intro turn mem
    obtain ⟨owner, ownerIn, named⟩ := grown.owned turn mem
    exact ⟨owner, stays owner ownerIn, named⟩
  · exact fun row mem => ⟨row, stays row mem, rfl, rfl⟩
  · intro row mem depth turns history
    refine ⟨[], ?_, fun more => absurd rfl more⟩
    rw [List.append_nil]
    exact history_of_insert grown inserted (unused row mem) history

lemma mem_insert_self {Row Key : Type} [DecidableEq Key] {key : Row → Key} {table after : Table key}
    {row : Row} (inserted : table.insert? row = some after) : row ∈ after := by
  obtain ⟨-, rows⟩ := Table.insert?_spec inserted
  rw [Table.mem_iff, rows]
  exact List.mem_append_right _ List.mem_cons_self

lemma origin_of_inserted (inserted : database.threads.insert? thread = some threads) :
    (forest { database with threads := threads }).origin thread.id =
      thread.parentThreadId.map fun parentId => (parentId, thread.forkedFromTurnId) :=
  origin_of_stored (mem_insert_self inserted)

lemma createThread_spec {workspaceId : Uuid} {title : String} (grown : Grown before)
    (run : createThread caller workspaceId title id before = .ok after) :
    Grown after ∧ Grows before after none ∧ ∀ thread ∈ after.threads, thread ∉ before.threads →
        History (forest after) thread.id 1 [] := by
  unfold createThread at run
  split at run
  · obtain ⟨threads, inserted, run⟩ := of_bind_ok run
    cases run
    replace inserted := insert_eq_ok inserted
    obtain ⟨unused, rows⟩ := Table.insert?_spec inserted
    have history := History.root (origin_of_inserted inserted)
    have empty : localTurns before id = [] := localTurns_of_unowned grown unused
    have added : History (forest { before with threads := threads }) id 1 [] := by
      rw [← empty]
      exact history
    obtain ⟨next, grows⟩ := grown_insert grown inserted nofun ⟨1, [], added, rfl⟩ none
    refine ⟨next, grows, ?_⟩
    intro thread mem absent
    rw [Table.mem_iff, rows] at mem
    rcases List.mem_append.1 mem with former | last
    · exact absurd former absent
    rw [List.mem_singleton.1 last]
    exact added
  · cases run

/-! ## New turns -/

lemma numbered_append (numbered : Numbered turns) (ordinal : turn.ordinal = turns.length + 1) :
    Numbered (turns ++ [turn]) := by
  rw [Numbered, List.map_append, numbered, List.map_singleton, ordinal, List.length_append,
    List.length_singleton, List.range'_concat, Nat.one_mul, Nat.add_comm 1]

lemma nextOrdinal_of_numbered (numbered : Numbered turns) :
    nextOrdinal turns = turns.length + 1 := by
  unfold nextOrdinal
  cases last : turns.getLast? with
  | none =>
    rw [List.getLast?_eq_none_iff.1 last]
    rfl
  | some turn =>
    have ordinals : (turns.map Turn.ordinal).getLast? = some turn.ordinal := by
      rw [List.getLast?_map, last, Option.map_some]
    have positive : turns ≠ [] := by
      rintro rfl
      cases last
    have size := List.length_pos_of_ne_nil positive
    rw [numbered, List.getLast?_range', if_neg (Nat.ne_of_gt size), Option.some.injEq] at ordinals
    dsimp only
    omega

lemma select_append {turns : Table Turn.id} (rows : turns.rows = database.turns.rows ++ [turn])
    (threadId : Uuid) :
    (turns.select fun other => other.threadId = threadId) =
      (database.turns.select fun other => other.threadId = threadId) ++
        if turn.threadId = threadId then [turn] else [] := by
  rw [Table.select, Table.select, rows, List.filter_append]
  by_cases owned : turn.threadId = threadId
  · rw [if_pos owned]
    simp [owned]
  rw [if_neg owned]
  simp [owned]

lemma ordinal_le_of_mem (numbered : Numbered turns) (mem : turn ∈ turns) :
    turn.ordinal ≤ turns.length := by
  have listed : turn.ordinal ∈ List.range' 1 turns.length := numbered ▸ List.mem_map_of_mem mem
  obtain ⟨-, bound⟩ := List.mem_range'_1.1 listed
  omega

lemma localTurns_suffix (history : History (forest database) threadId depth turns) :
    ∃ inherited, turns = inherited ++ localTurns database threadId := by
  cases history with
  | root => exact ⟨[], rfl⟩
  | fork origin earlier frozen => exact ⟨_, rfl⟩

lemma ordered_append (grown : Grown database) {turns : Table Turn.id}
    (rows : turns.rows = database.turns.rows ++ [turn])
    (above : ∀ former ∈ database.turns, former.threadId = turn.threadId →
      former.ordinal < turn.ordinal) (threadId : Uuid) :
    (turns.select fun other => other.threadId = threadId).Pairwise
      fun left right => left.ordinal < right.ordinal := by
  rw [select_append rows, List.pairwise_append]
  refine ⟨grown.ordered threadId, ?_, ?_⟩
  · split
    · exact List.pairwise_singleton _ _
    exact List.Pairwise.nil
  · intro former formerIn last lastIn
    split at lastIn
    · next owned =>
      rw [List.mem_singleton.1 lastIn]
      obtain ⟨stored, named⟩ := Table.mem_select.1 formerIn
      exact above former stored ((of_decide_eq_true named).trans owned.symm)
    · cases lastIn

lemma grown_append (grown : Grown database) (stored : thread ∈ database.threads)
    (history : History (forest database) thread.id depth turns) (owned : turn.threadId = thread.id)
    (ordinal : turn.ordinal = nextOrdinal turns) {written : Table Turn.id}
    (rows : written.rows = database.turns.rows ++ [turn]) (runs : Table Run.id) :
    Grown { database with turns := written, runs := runs } ∧
      Grows database { database with turns := written, runs := runs } (some thread.id) := by
  obtain ⟨depth', turns', history', numbered⟩ := grown.resolved thread stored
  obtain ⟨rfl, rfl⟩ := history.unique history'
  obtain ⟨inherited, split⟩ := localTurns_suffix history
  have next := ordinal.trans (nextOrdinal_of_numbered numbered)
  have above : ∀ former ∈ database.turns, former.threadId = turn.threadId →
      former.ordinal < turn.ordinal := by
    intro former formerIn named
    have listed : former ∈ turns := by
      rw [split, localTurns_of_ordered (grown.ordered thread.id)]
      exact List.mem_append_right _
        (Table.mem_select.2 ⟨formerIn, decide_eq_true (named.trans owned)⟩)
    rw [next]
    exact Nat.lt_succ_of_le (ordinal_le_of_mem numbered listed)
  have ordered := ordered_append grown rows above
  let final : Database := { database with turns := written, runs := runs }
  have logs : ∀ id, localTurns final id =
      localTurns database id ++ if turn.threadId = id then [turn] else [] := by
    intro id
    rw [localTurns_of_ordered (ordered id), localTurns_of_ordered (grown.ordered id)]
    exact select_append rows id
  have grownLog : localTurns final thread.id = localTurns database thread.id ++ [turn] := by
    rw [logs, if_pos owned]
  have otherLogs : ∀ id, id ≠ thread.id → localTurns final id = localTurns database id := by
    intro id apart
    rw [logs, owned, if_neg (Ne.symm apart), List.append_nil]
  have carried := fun {id depth turns} (history : History (forest database) id depth turns) =>
    history.append (show (forest final).origin = (forest database).origin from rfl)
      (show (forest final).key = (forest database).key from rfl) grownLog otherLogs
  refine ⟨⟨?_, grown.parents, ordered, ?_⟩, ?_, ?_⟩
  · intro row mem
    obtain ⟨above, entries, former, numberedRow⟩ := grown.resolved row mem
    by_cases eq : row.id = thread.id
    · obtain ⟨rfl, rfl⟩ := history.unique (eq ▸ former)
      exact ⟨depth, _, (carried former).1 eq, numbered_append numbered next⟩
    exact ⟨above, entries, (carried former).2 eq, numberedRow⟩
  · intro entry mem
    rw [Table.mem_iff, rows] at mem
    rcases List.mem_append.1 mem with former | last
    · exact grown.owned entry former
    rw [List.mem_singleton.1 last]
    exact ⟨thread, stored, owned.symm⟩
  · exact fun row mem => ⟨row, mem, rfl, rfl⟩
  · intro row mem above entries former
    by_cases eq : row.id = thread.id
    · exact ⟨_, (carried former).1 eq, fun _ => congrArg some eq.symm⟩
    refine ⟨[], ?_, fun more => absurd rfl more⟩
    rw [List.append_nil]
    exact (carried former).2 eq

lemma createTurn_spec {turnId runId : Uuid} {input : String} {env : TurnEnv} (grown : Grown before)
    (run : createTurn now caller threadId input env turnId runId before = .ok after) :
    Grown after ∧ Grows before after (some threadId) ∧ after.threads = before.threads := by
  obtain ⟨thread, accessed, run⟩ := of_bind_ok run
  obtain ⟨stored, keyed, -⟩ := requireThreadAccess_eq_ok.1 (refuse_eq_ok accessed)
  split at run
  · cases run
  obtain ⟨turns, resolved, run⟩ := of_bind_ok run
  obtain ⟨checked, -, run⟩ := of_bind_ok run
  dsimp only at run
  split at run
  · cases run
  obtain ⟨written, inserted, run⟩ := of_bind_ok run
  obtain ⟨runs, -, run⟩ := of_bind_ok run
  obtain ⟨captured, -, run⟩ := of_bind_ok run
  cases run
  obtain ⟨-, rows⟩ := Table.insert?_spec (insert_eq_ok inserted)
  obtain ⟨depth, -, history⟩ := history_of_effectiveTurns stored (refuse_eq_ok resolved)
  obtain ⟨next, grows⟩ := grown_append grown stored history rfl rfl rows runs
  exact ⟨next, keyed ▸ grows, rfl⟩

lemma exists_inheritedAt (checked : ¬ (forkPoint fromTurnId turns).any
      (fun turnId => !turns.any fun item => item.id = turnId) = true) :
    ∃ inherited, inheritedAt Turn.id (forkPoint fromTurnId turns) turns = some inherited := by
  cases point : forkPoint fromTurnId turns with
  | none => exact ⟨[], rfl⟩
  | some turnId =>
    rw [point] at checked
    have present : ∃ item ∈ turns, item.id = turnId := by
      simpa using checked
    exact exists_through present

lemma numbered_prefix {inherited : List Turn} (numbered : Numbered turns)
    (cut : inherited <+: turns) : Numbered inherited := by
  obtain ⟨more, rfl⟩ := cut
  have ordinals := congrArg (List.take inherited.length) numbered
  have size : inherited.length ≤ (inherited ++ more).length := by
    rw [List.length_append]
    exact Nat.le_add_right _ _
  rw [List.map_append, List.take_left' (List.length_map _),
    List.take_range'_of_length_ge size] at ordinals
  exact ordinals

lemma forkThread_spec {title : Option String} (grown : Grown before)
    (run : forkThread now caller threadId fromTurnId title id before = .ok after) :
    Grown after ∧ Grows before after none ∧
      (∀ thread ∈ after.threads, (∃ former ∈ before.threads, former.id = thread.id) ∨
        thread.id = id) ∧ ∃ depth turns inherited, History (forest before) threadId depth turns ∧
        inheritedAt Turn.id (forkPoint fromTurnId turns) turns = some inherited ∧
        (∃ parent ∈ before.threads, ∃ thread ∈ after.threads, parent.id = threadId ∧
          thread.id = id ∧ thread.workspaceId = parent.workspaceId) ∧
        History (forest after) id (depth + 1) inherited := by
  obtain ⟨parent, accessed, run⟩ := of_bind_ok run
  obtain ⟨stored, keyed, -⟩ := requireThreadAccess_eq_ok.1 (refuse_eq_ok accessed)
  obtain ⟨turns, resolved, run⟩ := of_bind_ok run
  obtain ⟨depth, -, history⟩ := history_of_effectiveTurns stored (refuse_eq_ok resolved)
  dsimp only at run
  split at run
  · cases run
  next checked =>
  obtain ⟨inherited, cut⟩ := exists_inheritedAt checked
  obtain ⟨threads, inserted, run⟩ := of_bind_ok run
  cases run
  subst keyed
  replace inserted := insert_eq_ok inserted
  obtain ⟨unused, rows⟩ := Table.insert?_spec inserted
  let middle : Database := { before with threads := threads }
  have parentIn : parent ∈ threads := by
    rw [Table.mem_iff, rows]
    exact List.mem_append_left _ stored
  obtain ⟨depth', turns', history', numbered⟩ := grown.resolved parent stored
  obtain ⟨rfl, rfl⟩ := history.unique history'
  have empty : localTurns before id = [] := localTurns_of_unowned grown unused
  have forked : History (forest middle) id (depth + 1) inherited := by
    have added := History.fork (origin_of_inserted inserted)
      (history_of_insert grown inserted (unused parent stored) history) cut
    change History (forest middle) id (depth + 1) (inherited ++ localTurns before id) at added
    rwa [empty, List.append_nil] at added
  have located : ∀ parentId, some parent.id = some parentId →
      ∃ row ∈ before.threads, row.id = parentId ∧ row.workspaceId = parent.workspaceId := by
    rintro parentId eq
    cases eq
    exact ⟨parent, stored, rfl, rfl⟩
  obtain ⟨next, grows⟩ := grown_insert grown inserted located
    ⟨_, _, forked, numbered_prefix numbered (prefix_of_inheritedAt cut)⟩ none
  have split : ∀ row ∈ threads, (∃ former ∈ before.threads, former.id = row.id) ∨ row.id = id := by
    intro row mem
    rw [Table.mem_iff, rows] at mem
    rcases List.mem_append.1 mem with former | last
    · exact .inl ⟨row, former, rfl⟩
    exact .inr (congrArg Thread.id (List.mem_singleton.1 last))
  have newIn : ∃ row ∈ threads, row.id = id ∧ row.workspaceId = parent.workspaceId :=
    ⟨_, mem_insert_self inserted, rfl, rfl⟩
  by_cases active : parent.status = .active
  · -- The source of the fork is archived; its lineage is as it was.
    rw [if_pos active]
    obtain ⟨final, archives, -⟩ := grown_put next parentIn
      (show (archived now parent).id = parent.id from rfl) rfl rfl rfl none
    have eq := forest_put (show parent ∈ middle.threads from parentIn)
      (show (archived now parent).id = parent.id from rfl) rfl rfl
    refine ⟨final, grows.trans archives, ?_, depth, turns, inherited, history, cut, ?_, ?_⟩
    · intro row mem
      rcases Table.mem_put.1 mem with rfl | ⟨stays, -⟩
      · exact .inl ⟨parent, stored, rfl⟩
      exact split row stays
    · obtain ⟨row, rowIn, named, located⟩ := newIn
      obtain ⟨later, laterIn, sameId, sameWorkspace⟩ := archives.threads row rowIn
      exact ⟨parent, stored, later, laterIn, rfl, sameId.trans named, sameWorkspace.trans located⟩
    · rw [eq]
      exact forked
  · rw [if_neg active]
    obtain ⟨row, rowIn, named, place⟩ := newIn
    exact ⟨next, grows, split, depth, turns, inherited, history, cut,
      ⟨parent, stored, row, rowIn, rfl, named, place⟩, forked⟩

lemma archiveThread_spec (grown : Grown before)
    (run : archiveThread now caller threadId before = .ok after) :
    Grown after ∧ Grows before after none ∧
      ∀ thread ∈ after.threads, ∃ former ∈ before.threads, former.id = thread.id := by
  obtain ⟨thread, accessed, run⟩ := of_bind_ok run
  obtain ⟨stored, -, -⟩ := requireThreadAccess_eq_ok.1 (refuse_eq_ok accessed)
  split at run
  · cases run
    exact ⟨grown, .refl before none, fun row mem => ⟨row, mem, rfl⟩⟩
  split at run
  · cases run
  cases run
  exact grown_put grown stored (show (archived now thread).id = thread.id from rfl) rfl rfl rfl none

lemma resumeThread_spec (grown : Grown before)
    (run : resumeThread caller threadId before = .ok after) :
    Grown after ∧ Grows before after none ∧
      ∀ thread ∈ after.threads, ∃ former ∈ before.threads, former.id = thread.id := by
  obtain ⟨thread, accessed, run⟩ := of_bind_ok run
  obtain ⟨stored, -, -⟩ := requireThreadAccess_eq_ok.1 (refuse_eq_ok accessed)
  split at run
  · cases run
    exact ⟨grown, .refl before none, fun row mem => ⟨row, mem, rfl⟩⟩
  cases run
  exact grown_put grown stored (show (resumed thread).id = thread.id from rfl) rfl rfl rfl none

def Action.target : Action → Option Uuid
  | .createTurn _ threadId _ _ _ _ => some threadId
  | _ => none

lemma perform_grows {world after : World} {action : Action} (grown : Grown world.database)
    (run : perform world action = some after) :
    Grown after.database ∧ Grows world.database after.database action.target := by
  cases action with
  | elapse duration =>
    cases run
    exact ⟨grown, .refl _ _⟩
  | createThread caller workspaceId title id =>
    obtain ⟨database, performed, rfl⟩ := Option.map_eq_some_iff.1 run
    obtain ⟨next, grows, -⟩ := createThread_spec grown (ok_of_toOption performed)
    exact ⟨next, grows⟩
  | createTurn caller threadId input env turnId runId =>
    obtain ⟨database, performed, rfl⟩ := Option.map_eq_some_iff.1 run
    obtain ⟨next, grows, -⟩ := createTurn_spec grown (ok_of_toOption performed)
    exact ⟨next, grows⟩
  | forkThread caller threadId fromTurnId title id =>
    obtain ⟨database, performed, rfl⟩ := Option.map_eq_some_iff.1 run
    obtain ⟨next, grows, -⟩ := forkThread_spec grown (ok_of_toOption performed)
    exact ⟨next, grows⟩
  | archiveThread caller threadId =>
    obtain ⟨database, performed, rfl⟩ := Option.map_eq_some_iff.1 run
    obtain ⟨next, grows, -⟩ := archiveThread_spec grown (ok_of_toOption performed)
    exact ⟨next, grows⟩
  | resumeThread caller threadId =>
    obtain ⟨database, performed, rfl⟩ := Option.map_eq_some_iff.1 run
    obtain ⟨next, grows, -⟩ := resumeThread_spec grown (ok_of_toOption performed)
    exact ⟨next, grows⟩
  | moveRun runId target =>
    obtain ⟨database, performed, rfl⟩ := Option.map_eq_some_iff.1 run
    obtain ⟨moved, -, performed⟩ := Option.bind_eq_some_iff.1 performed
    split at performed
    · cases performed
      exact ⟨⟨grown.resolved, grown.parents, grown.ordered, grown.owned⟩,
        .of_forest (fun thread stored => ⟨thread, stored, rfl, rfl⟩) rfl⟩
    · cases performed

end Obsion.Threads
