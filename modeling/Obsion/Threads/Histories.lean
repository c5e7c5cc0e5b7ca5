import Obsion.Lib.Fork
import Obsion.Threads.Service

/-! # The histories behind the resolver

The rows of the threads are a forest of logs.  The resolver returns the history of a
thread exactly when the chain of its parents has at most `max_lineage_depth` threads. -/

namespace Obsion.Threads

open Obsion.Lib

def forest (database : Database) : Forest Uuid Uuid Turn where
  origin id := (database.threads.get? id).bind fun thread =>
    thread.parentThreadId.map fun parentId => (parentId, thread.forkedFromTurnId)
  log := localTurns database
  key := Turn.id

/-- The ordinals are `1..n`. -/
def Numbered (turns : List Turn) : Prop := turns.map Turn.ordinal = List.range' 1 turns.length

structure Grown (database : Database) : Prop where
  resolved : ∀ thread ∈ database.threads, ∃ depth turns,
    History (forest database) thread.id depth turns ∧ Numbered turns
  parents : ∀ thread ∈ database.threads, ∀ parentId, thread.parentThreadId = some parentId →
    ∃ parent ∈ database.threads, parent.id = parentId ∧ parent.workspaceId = thread.workspaceId
  ordered : ∀ threadId, (database.turns.select fun turn => turn.threadId = threadId).Pairwise
    fun left right => left.ordinal < right.ordinal
  owned : ∀ turn ∈ database.turns, ∃ thread ∈ database.threads, thread.id = turn.threadId

variable {database : Database} {thread : Thread} {reads : Uuid → Bool} {turns : List Turn}

variable {threadId : Uuid} {room : Nat} {lineage : List Uuid}

lemma localTurns_of_ordered
    (ordered : (database.turns.select fun turn => turn.threadId = threadId).Pairwise
      fun left right => left.ordinal < right.ordinal) :
    localTurns database threadId = database.turns.select fun turn => turn.threadId = threadId :=
  List.Pairwise.insertionSort_eq (ordered.imp fun before => before.le)

lemma origin_of_stored (stored : thread ∈ database.threads) : (forest database).origin thread.id =
      thread.parentThreadId.map fun parentId => (parentId, thread.forkedFromTurnId) := by
  have found : database.threads.get? thread.id = some thread :=
    Table.get?_eq_some.2 ⟨stored, rfl⟩
  simp only [forest, found, Option.bind_some]

lemma inheritedTurns_eq_ok {parentTurns inherited : List Turn} :
    inheritedTurns thread parentTurns = .ok inherited ↔
      inheritedAt Turn.id thread.forkedFromTurnId parentTurns = some inherited := by
  unfold inheritedTurns
  split
  · next unforked =>
    rw [unforked, inheritedAt, Except.ok.injEq, Option.some.injEq]
  next turnId point =>
  rw [point, inheritedAt, through]
  split
  · next absent => simp [absent]
  next index position => simp [position]

lemma requireThreadAccess_eq_ok {granted : Uuid → Bool} :
    requireThreadAccess database granted threadId = .ok thread ↔
      thread ∈ database.threads ∧ thread.id = threadId ∧ granted thread.workspaceId = true := by
  unfold requireThreadAccess
  constructor
  · intro run
    split at run
    · cases run
    next found =>
    obtain ⟨stored, keyed⟩ := Table.get?_eq_some.1 found
    split at run
    · next access =>
      cases run
      exact ⟨stored, keyed, access⟩
    · cases run
  · rintro ⟨stored, keyed, access⟩
    rw [Table.get?_eq_some.2 ⟨stored, keyed⟩]
    exact if_pos access

lemma history_of_effectiveTurns (stored : thread ∈ database.threads)
    (run : effectiveTurns database reads room lineage thread = .ok turns) :
    ∃ depth, depth ≤ room ∧ History (forest database) thread.id depth turns := by
  induction room generalizing lineage thread turns with
  | zero => cases run
  | succ room ih =>
    rw [effectiveTurns] at run
    split at run
    · cases run
    split at run
    · next rooted =>
      cases run
      refine ⟨1, Nat.succ_le_succ (Nat.zero_le _), .root ?_⟩
      rw [origin_of_stored stored, rooted, Option.map_none]
    · next parentId forked =>
      obtain ⟨parent, accessed, run⟩ := of_bind_ok run
      obtain ⟨parentTurns, resolved, run⟩ := of_bind_ok run
      obtain ⟨inherited, cut, run⟩ := of_bind_ok run
      cases run
      obtain ⟨parentIn, keyed, -⟩ := requireThreadAccess_eq_ok.1 accessed
      obtain ⟨depth, bound, history⟩ := ih parentIn resolved
      refine ⟨depth + 1, Nat.succ_le_succ bound,
        .fork ?_ (keyed ▸ history) (inheritedTurns_eq_ok.1 cut)⟩
      rw [origin_of_stored stored, forked, Option.map_some]

/-- A history whose chain of parents fits is what the resolver returns.  The threads
visited before are deeper, so that none of them is met again. -/
lemma effectiveTurns_of_history (grown : Grown database) {depth : Nat}
    (stored : thread ∈ database.threads) (readable : reads thread.workspaceId = true)
    (history : History (forest database) thread.id depth turns) (fits : depth ≤ room)
    (deeper : ∀ id ∈ lineage, ∃ other others,
      History (forest database) id other others ∧ depth < other) :
    effectiveTurns database reads room lineage thread = .ok turns := by
  induction room generalizing lineage thread turns depth with
  | zero => exact absurd history.depth_pos (Nat.not_lt.2 fits)
  | succ room ih =>
    have unmet : thread.id ∉ lineage := by
      intro mem
      obtain ⟨other, others, again, below⟩ := deeper thread.id mem
      exact absurd (history.unique again).1 below.ne
    rw [effectiveTurns, if_neg unmet]
    have origin := origin_of_stored stored
    cases parent : thread.parentThreadId with
    | none =>
      rw [parent, Option.map_none] at origin
      cases history with
      | root => rfl
      | fork found => rw [origin] at found; cases found
    | some parentId =>
      rw [parent, Option.map_some] at origin
      cases history with
      | root found => rw [origin] at found; cases found
      | @fork _ _ _ above entries inherited found earlier frozen =>
        rw [origin] at found
        cases found
        obtain ⟨row, rowIn, keyed, workspace⟩ := grown.parents thread stored parentId parent
        have access : requireThreadAccess database reads parentId = .ok row :=
          requireThreadAccess_eq_ok.2 ⟨rowIn, keyed, workspace ▸ readable⟩
        have further : ∀ id ∈ thread.id :: lineage, ∃ other others,
            History (forest database) id other others ∧ above < other := by
          intro id mem
          rcases List.mem_cons.1 mem with rfl | earlierId
          · exact ⟨above + 1, _, .fork origin earlier frozen, Nat.lt_succ_self above⟩
          obtain ⟨other, others, visited, below⟩ := deeper id earlierId
          exact ⟨other, others, visited, Nat.lt_of_succ_lt below⟩
        have resolved := ih rowIn (workspace ▸ readable) (keyed ▸ earlier)
          (Nat.le_of_succ_le_succ fits) further
        have cut : inheritedTurns thread entries = .ok inherited :=
          inheritedTurns_eq_ok.2 frozen
        dsimp only
        rw [access]
        change (effectiveTurns database reads room (thread.id :: lineage) row >>= _) = _
        rw [resolved]
        change (inheritedTurns thread entries >>= _) = _
        rw [cut]
        rfl

lemma resolve_eq_ok_iff (grown : Grown database) (stored : thread ∈ database.threads)
    (readable : reads thread.workspaceId = true) : resolve database reads thread = .ok turns ↔
      ∃ depth, depth ≤ maxLineageDepth ∧ History (forest database) thread.id depth turns := by
  constructor
  · exact history_of_effectiveTurns stored
  rintro ⟨depth, fits, history⟩
  exact effectiveTurns_of_history grown stored readable history fits nofun

end Obsion.Threads
