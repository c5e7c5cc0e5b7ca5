import Obsion.Events.Store

/-! # Sequence numbers of the event log

`Consistent` holds in every reachable world: the committed counters, events and
messages agree, every transaction agrees with the committed tables, and no two
transactions wrote the same row.  Each statement keeps it; a commit keeps it
because the rows that the transaction wrote were locked.  A failed `append` gives
its transaction back the writes it had before. -/

namespace Obsion.Events

open Obsion.Lib

def runNumbering : Numbering Event Uuid := ⟨Event.runId, Event.runSequence⟩

def headNumbering : Numbering Event HeadKey :=
  ⟨fun event => some (event.aggregateType, event.aggregateId), fun event => some event.sequence⟩

/-- The Run whose counter an `append` has raised for an event it did not insert yet. -/
def pendingRun : Phase → Option Uuid
  | .runUpdated draft _ _ _ _ => draft.runId
  | .headUpserted draft _ _ _ _ _ => draft.runId
  | _ => none

def pendingHead : Phase → Option HeadKey
  | .headUpserted draft _ _ _ _ _ => some (headKey draft)
  | _ => none

section
variable (contracts : Contracts)

structure WritesOk (tables : Tables) (run : Option Uuid) (head : Option HeadKey)
    (writes : Writes) : Prop where
  runs : Agrees runNumbering Run.aggregateVersion tables.runs writes.runs writes.events run
  heads : Agrees headNumbering AggregateHead.sequence tables.heads writes.heads writes.events head
  outbox : writes.outbox = writes.events.map (outboxMessage contracts)
  ids : ((tables.events ++ writes.events).map Event.id).Nodup

/-- The older writes lock no row that the newer ones do not lock. -/
structure Within (newer older : Writes) : Prop where
  runs : ∀ key ∈ older.runs.map Prod.fst, key ∈ newer.runs.map Prod.fst
  heads : ∀ key ∈ older.heads.map Prod.fst, key ∈ newer.heads.map Prod.fst
  events : ∀ id ∈ older.events.map Event.id, id ∈ newer.events.map Event.id

/-- The writes that a rollback to a savepoint can restore, the newest first. -/
def Transaction.saved (transaction : Transaction) : List Writes :=
  (savedWrites transaction.phase).toList ++ transaction.savepoints

/-- The sequence numbers an `append` has read are the counters it has raised. -/
def SequencesOk (tables : Tables) (writes : Writes) : Phase → Prop
  | .runUpdated draft _ _ _ runSequence =>
    runSequence = draft.runId.map (counter Run.aggregateVersion (overlay tables.runs writes.runs))
  | .headUpserted draft _ _ _ runSequence sequence =>
    runSequence = draft.runId.map (counter Run.aggregateVersion (overlay tables.runs writes.runs))
      ∧ sequence = counter AggregateHead.sequence (overlay tables.heads writes.heads)
          (headKey draft)
  | _ => True

structure TransactionOk (tables : Tables) (transaction : Transaction) : Prop where
  writes : WritesOk contracts tables (pendingRun transaction.phase) (pendingHead transaction.phase)
    transaction.writes
  below : ∀ saved ∈ transaction.saved, WritesOk contracts tables none none saved
  nested : (transaction.writes :: transaction.saved).Pairwise Within
  sequences : SequencesOk tables transaction.writes transaction.phase

structure Apart (left right : Writes) : Prop where
  runs : ∀ key ∈ left.runs.map Prod.fst, key ∉ right.runs.map Prod.fst
  heads : ∀ key ∈ left.heads.map Prod.fst, key ∉ right.heads.map Prod.fst
  events : ∀ id ∈ left.events.map Event.id, id ∉ right.events.map Event.id

structure Consistent (world : World) : Prop where
  runs : Complete runNumbering Run.aggregateVersion world.tables.runs world.tables.events
  heads : Complete headNumbering AggregateHead.sequence world.tables.heads world.tables.events
  outbox : world.tables.outbox = world.tables.events.map (outboxMessage contracts)
  ids : (world.tables.events.map Event.id).Nodup
  transactions : ∀ number transaction, world.transaction number = some transaction →
    TransactionOk contracts world.tables transaction
  apart : ∀ number other left right, number ≠ other → world.transaction number = some left →
    world.transaction other = some right → Apart left.writes right.writes

end

variable {contracts : Contracts} {world : World} {tables : Tables}

lemma transaction_set (number other : Nat) (transaction : Option Transaction)
    (started : (world.transaction number).isSome) : (world.set number transaction).transaction other
      = if other = number then transaction else world.transaction other := by
  have inside : number < world.transactions.length := by
    by_contra outside
    rw [World.transaction, List.getElem?_eq_none (Nat.le_of_not_lt outside)] at started
    cases started
  unfold World.transaction World.set
  by_cases eq : other = number
  · subst eq
    simp [inside]
  simp [eq, Ne.symm eq]

lemma idle_transaction {number : Nat} {transaction : Transaction}
    (found : world.idle number = some transaction) :
    world.transaction number = some transaction ∧ transaction.phase = .idle := by
  unfold World.idle at found
  split at found
  · next writes savepoints present =>
    cases found
    exact ⟨present, rfl⟩
  · cases found

lemma mem_others {number other : Nat} {transaction : Transaction} (apart : number ≠ other)
    (present : world.transaction other = some transaction) : transaction ∈ world.others number := by
  unfold World.others
  rw [List.mem_filterMap]
  refine ⟨some transaction, ?_, rfl⟩
  rw [List.mem_iff_getElem?]
  refine ⟨other, ?_⟩
  rw [List.getElem?_set_ne apart]
  unfold World.transaction at present
  cases found : world.transactions[other]? with
  | none =>
    rw [found] at present
    cases present
  | some entry =>
    rw [found] at present
    rw [show entry = some transaction from present]

lemma Apart.symm {left right : Writes} (apart : Apart left right) : Apart right left :=
  ⟨fun key mem held => apart.runs key held mem, fun key mem held => apart.heads key held mem,
    fun id mem held => apart.events id held mem⟩

lemma Apart.none (writes : Writes) : Apart Writes.none writes :=
  ⟨nofun, nofun, nofun⟩

lemma Apart.within {left right older : Writes} (apart : Apart left right)
    (within : Within left older) : Apart older right :=
  ⟨fun key mem => apart.runs key (within.runs key mem),
    fun key mem => apart.heads key (within.heads key mem),
    fun id mem => apart.events id (within.events id mem)⟩

lemma Within.refl (writes : Writes) : Within writes writes :=
  ⟨fun _ mem => mem, fun _ mem => mem, fun _ mem => mem⟩

lemma Within.trans {newest newer older : Writes} (first : Within newest newer)
    (second : Within newer older) : Within newest older :=
  ⟨fun key mem => first.runs key (second.runs key mem),
    fun key mem => first.heads key (second.heads key mem),
    fun id mem => first.events id (second.events id mem)⟩

section
variable (consistent : Consistent contracts world)
include consistent

lemma Consistent.replace {number : Nat} {transaction : Transaction} {next : Option Transaction}
    (present : world.transaction number = some transaction)
    (ok : ∀ found ∈ next, TransactionOk contracts world.tables found)
    (apart : ∀ found ∈ next, ∀ other right, number ≠ other →
      world.transaction other = some right → Apart found.writes right.writes) :
    Consistent contracts (world.set number next) := by
  have at_ : ∀ other, (world.set number next).transaction other
      = if other = number then next else world.transaction other := fun other =>
    transaction_set number other next (by rw [present]; rfl)
  refine ⟨consistent.runs, consistent.heads, consistent.outbox, consistent.ids, ?_, ?_⟩
  · intro other found present'
    rw [at_] at present'
    split at present'
    · exact ok found present'
    exact consistent.transactions other found present'
  · intro first second left right different onLeft onRight
    rw [at_] at onLeft onRight
    split at onLeft
    · next here =>
      subst here
      rw [if_neg (Ne.symm different)] at onRight
      exact apart left onLeft second right different onRight
    · split at onRight
      · next here =>
        subst here
        exact (apart right onRight first left (Ne.symm different) onLeft).symm
      · exact consistent.apart first second left right different onLeft onRight

lemma Consistent.set {number : Nat} {transaction next : Transaction}
    (present : world.transaction number = some transaction)
    (ok : TransactionOk contracts world.tables next)
    (apart : ∀ other right, number ≠ other → world.transaction other = some right →
      Apart next.writes right.writes) : Consistent contracts (world.set number (some next)) :=
  consistent.replace present (by rintro _ ⟨⟩; exact ok) (by rintro _ ⟨⟩; exact apart)

lemma Consistent.set_within {number : Nat} {transaction next : Transaction}
    (present : world.transaction number = some transaction)
    (ok : TransactionOk contracts world.tables next)
    (within : Within transaction.writes next.writes) :
    Consistent contracts (world.set number (some next)) :=
  consistent.set present ok fun other right different found =>
    (consistent.apart number other transaction right different present found).within within

lemma Consistent.end_ {number : Nat} {transaction : Transaction}
    (present : world.transaction number = some transaction) :
    Consistent contracts (world.set number none) :=
  consistent.replace present (fun _ absent => by cases absent) fun _ absent => by cases absent

end

lemma TransactionOk.idle_writes {transaction : Transaction}
    (ok : TransactionOk contracts tables transaction) (idle : transaction.phase = .idle) :
    WritesOk contracts tables none none transaction.writes := by
  have writes := ok.writes
  rw [idle] at writes
  exact writes

lemma TransactionOk.grow {transaction next : Transaction}
    (ok : TransactionOk contracts tables transaction)
    (writes : WritesOk contracts tables (pendingRun next.phase) (pendingHead next.phase) next.writes)
    (within : Within next.writes transaction.writes) (saved : next.saved.Sublist transaction.saved)
    (sequences : SequencesOk tables next.writes next.phase) :
    TransactionOk contracts tables next := by
  obtain ⟨above, nested⟩ := List.pairwise_cons.1 ok.nested
  refine ⟨writes, fun older mem => ok.below older (saved.subset mem), ?_, sequences⟩
  refine List.pairwise_cons.2 ⟨?_, nested.sublist saved⟩
  intro older mem
  exact within.trans (above older (saved.subset mem))

lemma TransactionOk.save {transaction next : Transaction}
    (ok : TransactionOk contracts tables transaction) (idle : transaction.phase = .idle)
    (eq : next.writes = transaction.writes) (run : pendingRun next.phase = none)
    (head : pendingHead next.phase = none)
    (saved : next.saved = transaction.writes :: transaction.saved)
    (sequences : SequencesOk tables next.writes next.phase) :
    TransactionOk contracts tables next := by
  have writes := ok.idle_writes idle
  refine ⟨?_, ?_, ?_, sequences⟩
  · rw [run, head, eq]
    exact writes
  · intro older mem
    rw [saved] at mem
    rcases List.mem_cons.1 mem with rfl | older_
    · exact writes
    exact ok.below older older_
  · rw [saved, eq]
    refine List.pairwise_cons.2 ⟨?_, ok.nested⟩
    intro older mem
    rcases List.mem_cons.1 mem with rfl | older_
    · exact Within.refl _
    exact (List.pairwise_cons.1 ok.nested).1 older older_

lemma TransactionOk.restore {transaction : Transaction} {saved : Writes} {older : List Writes}
    (ok : TransactionOk contracts tables transaction) (stack : transaction.saved = saved :: older) :
    TransactionOk contracts tables ⟨saved, older, .idle⟩ ∧ Within transaction.writes saved := by
  have nested := ok.nested
  rw [stack] at nested
  obtain ⟨above, below⟩ := List.pairwise_cons.1 nested
  refine ⟨⟨?_, ?_, below, trivial⟩, above saved List.mem_cons_self⟩
  · exact ok.below saved (by rw [stack]; exact List.mem_cons_self)
  intro found mem
  exact ok.below found (by rw [stack]; exact List.mem_cons_of_mem _ mem)

section
variable {writes after : Writes} {draft : EventDraft}

lemma within_runs (writes : Writes) (key : Uuid) (run : Run) :
    Within { writes with runs := (key, run) :: writes.runs } writes :=
  ⟨fun _ mem => List.mem_cons_of_mem _ mem, fun _ mem => mem, fun _ mem => mem⟩

lemma within_heads (writes : Writes) (key : HeadKey) (head : AggregateHead) :
    Within { writes with heads := (key, head) :: writes.heads } writes :=
  ⟨fun _ mem => mem, fun _ mem => List.mem_cons_of_mem _ mem, fun _ mem => mem⟩

lemma counter_of_some {Key Row : Type} {version : Row → Nat} {table : Key → Option Row} {key : Key}
    {row : Row} (found : table key = some row) : counter version table key = version row := by
  simp only [counter, found, Option.elim_some]

lemma updateRun_ok {runSequence : Option Nat} (ok : WritesOk contracts tables none none writes)
    (run : updateRun tables writes draft = some (after, runSequence)) :
    WritesOk contracts tables draft.runId none after ∧ Within after writes ∧ runSequence
        = draft.runId.map (counter Run.aggregateVersion (overlay tables.runs after.runs)) ∧
      ∀ right : Writes, Apart writes right →
        (∀ runId, draft.runId = some runId → runId ∉ right.runs.map Prod.fst) →
        Apart after right := by
  unfold updateRun at run
  cases id : draft.runId with
  | none =>
    rw [id] at run
    cases run
    exact ⟨ok, Within.refl _, rfl, fun right apart _ => apart⟩
  | some runId =>
    rw [id] at run
    simp only at run
    split at run
    · cases run
    next row found =>
    split at run
    · cases run
      have next : Run.aggregateVersion { row with
          aggregateVersion := row.aggregateVersion + 1 }
            = counter Run.aggregateVersion (overlay tables.runs writes.runs) runId + 1 := by
        rw [counter_of_some found]
      refine ⟨⟨ok.runs.raise next, ok.heads, ok.outbox, ok.ids⟩, within_runs _ _ _, ?_, ?_⟩
      · simp only [Option.map_some, counter, overlay_cons, if_true, Option.elim_some]
      intro right apart free
      refine ⟨?_, apart.heads, apart.events⟩
      intro key mem
      rcases List.mem_cons.1 mem with rfl | older
      · exact free _ rfl
      exact apart.runs key older
    · cases run

lemma upsertHead_ok {now : Time} {sequence : Nat} {run : Option Uuid}
    (ok : WritesOk contracts tables run none writes)
    (upsert : upsertHead tables writes draft now = some (after, sequence)) :
    WritesOk contracts tables run (some (headKey draft)) after ∧ Within after writes ∧
      after.runs = writes.runs ∧
      sequence = counter AggregateHead.sequence (overlay tables.heads after.heads) (headKey draft) ∧
      ∀ right : Writes, Apart writes right → headKey draft ∉ right.heads.map Prod.fst →
        Apart after right := by
  obtain ⟨head, next, eq⟩ : ∃ head : AggregateHead, head.sequence
        = counter AggregateHead.sequence (overlay tables.heads writes.heads) (headKey draft) + 1 ∧
      ({ writes with heads := (headKey draft, head) :: writes.heads }, head.sequence)
        = (after, sequence) := by
    unfold upsertHead at upsert
    split at upsert
    · next missing =>
      refine ⟨_, ?_, Option.some.inj upsert⟩
      simp only [counter, missing, Option.elim_none]
    · next head found =>
      split at upsert
      · refine ⟨_, ?_, Option.some.inj upsert⟩
        rw [counter_of_some found]
      cases upsert
  obtain ⟨rfl, rfl⟩ := Prod.mk.inj eq
  refine ⟨⟨ok.runs, ok.heads.raise next, ok.outbox, ok.ids⟩, within_heads _ _ _, rfl, ?_, ?_⟩
  · simp only [counter, overlay_cons, if_true, Option.elim_some]
  intro right apart free
  refine ⟨apart.runs, ?_, apart.events⟩
  intro key mem
  rcases List.mem_cons.1 mem with rfl | older
  · exact free
  exact apart.heads key older

lemma insertEvent_ok {event : Event} {run : Option Uuid} {head : HeadKey}
    (ok : WritesOk contracts tables run (some head) writes)
    (insert : insertEvent contracts tables writes event = some after) (runKey : event.runId = run)
    (runNumber : event.runSequence
      = run.map (counter Run.aggregateVersion (overlay tables.runs writes.runs)))
    (key : (event.aggregateType, event.aggregateId) = head) (number : event.sequence
      = counter AggregateHead.sequence (overlay tables.heads writes.heads) head) :
    WritesOk contracts tables none none after ∧ Within after writes ∧
      ∀ right : Writes, Apart writes right → event.id ∉ right.events.map Event.id →
        Apart after right := by
  unfold insertEvent at insert
  split at insert
  · next accepted =>
    cases insert
    have unused : event.id ∉ (tables.events ++ writes.events).map Event.id := by
      intro mem
      obtain ⟨other, present, eq⟩ := List.mem_map.1 mem
      simp only [Bool.and_eq_true, Bool.not_eq_true', violatesUnique, List.any_eq_false] at accepted
      have distinct := accepted.2 other present
      simp [eq] at distinct
    refine ⟨⟨?_, ?_, ?_, ?_⟩, ⟨?_, ?_, ?_⟩, ?_⟩
    · apply ok.runs.insert runKey
      intro found eq
      simp only [runNumbering, runNumber, eq, Option.map_some]
    · apply ok.heads.insert (by simp only [headNumbering, key])
      intro found eq
      cases eq
      simp only [headNumbering, number]
    · simp only [ok.outbox, List.map_append, List.map_cons, List.map_nil]
    · rw [← List.append_assoc, List.map_append, List.nodup_append]
      refine ⟨ok.ids, List.nodup_singleton _, ?_⟩
      intro left mem right last eq
      rw [eq, List.mem_singleton.1 last] at mem
      exact unused mem
    · exact fun _ mem => mem
    · exact fun _ mem => mem
    · intro id mem
      rw [List.map_append]
      exact List.mem_append_left _ mem
    · intro right apart free
      refine ⟨apart.runs, apart.heads, ?_⟩
      intro id mem
      rw [List.map_append, List.mem_append] at mem
      rcases mem with older | last
      · exact apart.events id older
      rw [List.map_singleton, List.mem_singleton] at last
      rw [last]
      exact free
  · cases insert

end

section
variable {writes committed : Writes} {run : Option Uuid} {head : HeadKey}

lemma WritesOk.stable {run : Option Uuid} {head : Option HeadKey}
    (ok : WritesOk contracts tables run head writes)
    (committing : WritesOk contracts tables none none committed) (apart : Apart writes committed) :
    WritesOk contracts (tables.merge committed) run head writes := by
  refine ⟨?_, ?_, ok.outbox, ?_⟩
  · exact ok.runs.stable fun key mem => overlay_of_notMem (apart.runs key mem)
  · exact ok.heads.stable fun key mem => overlay_of_notMem (apart.heads key mem)
  · have first := committing.ids
    have second := ok.ids
    simp only [Tables.merge, List.map_append, List.nodup_append, List.mem_append] at first second ⊢
    refine ⟨⟨first.1, first.2.1, first.2.2⟩, second.2.1, ?_⟩
    intro id mem other own
    rcases mem with old | new
    · exact second.2.2 id old other own
    rintro rfl
    exact apart.events id own new

lemma sequences_stable {phase : Phase}
    (ok : WritesOk contracts tables (pendingRun phase) (pendingHead phase) writes)
    (sequences : SequencesOk tables writes phase) :
    SequencesOk (tables.merge committed) writes phase := by
  have sameRun : ∀ draft : EventDraft, WritesOk contracts tables draft.runId (pendingHead phase) writes →
      draft.runId.map (counter Run.aggregateVersion (overlay tables.runs writes.runs))
        = draft.runId.map (counter Run.aggregateVersion
            (overlay (tables.merge committed).runs writes.runs)) := by
    intro draft holds
    cases id : draft.runId with
    | none => rfl
    | some runId =>
      rw [id] at holds
      have touched := holds.runs.touched
      simp only [Option.map_some, counter]
      rw [overlay_of_mem touched]
  cases phase with
  | idle | begun => trivial
  | runUpdated draft prepared now saved runSequence => exact sequences.trans (sameRun draft ok)
  | headUpserted draft prepared now saved runSequence sequence =>
    refine ⟨sequences.1.trans (sameRun draft ok), ?_⟩
    have touched := ok.heads.touched
    rw [sequences.2]
    simp only [counter]
    rw [overlay_of_mem touched]

lemma TransactionOk.stable {transaction : Transaction}
    (ok : TransactionOk contracts tables transaction)
    (committing : WritesOk contracts tables none none committed)
    (apart : Apart transaction.writes committed) :
    TransactionOk contracts (tables.merge committed) transaction := by
  refine ⟨ok.writes.stable committing apart, ?_, ok.nested, sequences_stable ok.writes ok.sequences⟩
  intro saved mem
  have within := (List.pairwise_cons.1 ok.nested).1 saved mem
  exact (ok.below saved mem).stable committing (apart.within within)

lemma commit_consistent (consistent : Consistent contracts world) {number : Nat}
    {transaction : Transaction} (present : world.transaction number = some transaction)
    (idle : transaction.phase = .idle) :
    Consistent contracts (commitStep world number transaction) := by
  have ok := (consistent.transactions number transaction present).idle_writes idle
  have ended := consistent.end_ present
  have at_ : ∀ other, (commitStep world number transaction).transaction other
      = if other = number then none else world.transaction other := fun other =>
    transaction_set number other none (by rw [present]; rfl)
  refine ⟨consistent.runs.commit ok.runs, consistent.heads.commit ok.heads, ?_, ok.ids, ?_, ended.apart⟩
  · simp only [commitStep, Tables.merge, List.map_append, consistent.outbox, ok.outbox]
  intro other found onOther
  rw [at_] at onOther
  split at onOther
  · cases onOther
  next different =>
  exact (consistent.transactions other found onOther).stable ok
    (consistent.apart other number found transaction different onOther present)

end

/-! ## One step lemma for each statement -/

section
variable {next : World} {number : Nat} {transaction : Transaction}

variable {other : Nat} {right : Transaction}

lemma free_runs {runId : Uuid} (free : world.runFree number runId = true)
    (different : number ≠ other) (present : world.transaction other = some right) :
    runId ∉ right.writes.runs.map Prod.fst := by
  have checked := List.all_eq_true.1 free right (mem_others different present)
  simpa using checked

lemma free_heads {key : HeadKey} (free : world.headFree number key = true)
    (different : number ≠ other) (present : world.transaction other = some right) :
    key ∉ right.writes.heads.map Prod.fst := by
  have checked := List.all_eq_true.1 free right (mem_others different present)
  simpa using checked

lemma free_events {eventId : Uuid} (free : world.eventFree number eventId = true)
    (different : number ≠ other) (present : world.transaction other = some right) :
    eventId ∉ right.writes.events.map Event.id := by
  have checked := List.all_eq_true.1 free right (mem_others different present)
  simpa using checked

section
variable (consistent : Consistent contracts world)
include consistent

lemma begin_consistent : Consistent contracts
      { world with transactions := world.transactions ++ [some ⟨Writes.none, [], .idle⟩] } := by
  have at_ : ∀ other found,
      ({ world with transactions := world.transactions ++ [some ⟨Writes.none, [], .idle⟩] } :
        World).transaction other = some found →
      world.transaction other = some found ∨ found = ⟨Writes.none, [], .idle⟩ := by
    intro other found present
    unfold World.transaction at present ⊢
    by_cases inside : other < world.transactions.length
    · rw [List.getElem?_append_left inside] at present
      exact .inl present
    rw [List.getElem?_append_right (Nat.le_of_not_lt inside)] at present
    cases position : other - world.transactions.length with
    | zero =>
      rw [position] at present
      exact .inr (Option.some.inj present).symm
    | succ rest =>
      rw [position] at present
      cases present
  refine ⟨consistent.runs, consistent.heads, consistent.outbox, consistent.ids, ?_, ?_⟩
  · intro other found present
    rcases at_ other found present with old | rfl
    · exact consistent.transactions other found old
    refine ⟨⟨Agrees.begin, Agrees.begin, rfl, ?_⟩, ?_, ?_, trivial⟩
    · simp only [Writes.none, List.append_nil]
      exact consistent.ids
    · exact nofun
    · exact List.pairwise_singleton _ _
  · intro first second left right different onLeft onRight
    rcases at_ first left onLeft with oldLeft | rfl
    · rcases at_ second right onRight with oldRight | rfl
      · exact consistent.apart first second left right different oldLeft oldRight
      exact (Apart.none left.writes).symm
    · exact Apart.none right.writes

lemma createRun_consistent (present : world.transaction number = some transaction)
    (idle : transaction.phase = .idle) {runId organizationId : Uuid}
    (step : createRunStep world number runId organizationId transaction = some next) :
    Consistent contracts next := by
  unfold createRunStep at step
  simp only at step
  split at step
  · next checked =>
    cases step
    simp only [Bool.and_eq_true, Option.isNone_iff_eq_none] at checked
    have ok := consistent.transactions number transaction present
    have writes := ok.idle_writes idle
    apply consistent.set present
    · refine ok.grow ?_ (within_runs _ _ _) (List.Sublist.refl _) ?_
      · simp only [idle]
        exact ⟨writes.runs.create checked.2 rfl, writes.heads, writes.outbox, writes.ids⟩
      simp only [idle]
      trivial
    · intro other right different found
      have apart := consistent.apart number other transaction right different present found
      refine ⟨?_, apart.heads, apart.events⟩
      intro key mem
      rcases List.mem_cons.1 mem with rfl | older
      · exact free_runs checked.1 different found
      exact apart.runs key older
  · cases step

lemma updateRun_consistent (present : world.transaction number = some transaction)
    (step : updateRunStep world number transaction = some next) : Consistent contracts next := by
  unfold updateRunStep at step
  split at step
  · next draft prepared now saved phase =>
    split at step
    · next free =>
      obtain ⟨⟨after, runSequence⟩, updated, rfl⟩ := Option.map_eq_some_iff.1 step
      have ok := consistent.transactions number transaction present
      have writes := ok.writes
      rw [phase] at writes
      obtain ⟨grown, within, sequence, apart⟩ := updateRun_ok writes updated
      apply consistent.set present
      · refine ok.grow grown within ?_ sequence
        simp only [Transaction.saved, phase, savedWrites, List.Sublist.refl]
      · intro other right different found
        refine apart _ (consistent.apart number other transaction right different present found)
          fun runId eq => ?_
        rw [eq, Option.all_some] at free
        exact free_runs free different found
    · cases step
  · cases step

lemma upsertHead_consistent (present : world.transaction number = some transaction)
    (step : upsertHeadStep world number transaction = some next) : Consistent contracts next := by
  unfold upsertHeadStep at step
  split at step
  · next draft prepared now saved runSequence phase =>
    split at step
    · next free =>
      obtain ⟨⟨after, sequence⟩, upserted, rfl⟩ := Option.map_eq_some_iff.1 step
      have ok := consistent.transactions number transaction present
      have writes := ok.writes
      have sequences := ok.sequences
      rw [phase] at writes sequences
      obtain ⟨grown, within, eq, number_, apart⟩ := upsertHead_ok writes upserted
      apply consistent.set present
      · refine ok.grow grown within ?_ ⟨?_, number_⟩
        · simp only [Transaction.saved, phase, savedWrites, List.Sublist.refl]
        simp only [eq]
        exact sequences
      · intro other right different found
        exact apart _ (consistent.apart number other transaction right different present found)
          (free_heads free different found)
    · cases step
  · cases step

lemma insertEvent_consistent (present : world.transaction number = some transaction)
    (step : insertEventStep contracts world number transaction = some next) :
    Consistent contracts next := by
  unfold insertEventStep at step
  split at step
  · next draft prepared now saved runSequence sequence phase =>
    split at step
    · next free =>
      obtain ⟨after, inserted, rfl⟩ := Option.map_eq_some_iff.1 step
      have ok := consistent.transactions number transaction present
      have writes := ok.writes
      have sequences := ok.sequences
      rw [phase] at writes sequences
      obtain ⟨grown, within, apart⟩ :=
        insertEvent_ok writes inserted rfl sequences.1 rfl sequences.2
      apply consistent.set present
      · refine ok.grow grown within ?_ trivial
        simp only [Transaction.saved, phase, savedWrites, Option.toList_none, List.nil_append,
          Option.toList_some]
        exact List.sublist_append_right _ _
      · intro other right different found
        exact apart _ (consistent.apart number other transaction right different present found)
          (free_events free different found)
    · cases step
  · cases step

lemma failAppend_consistent (present : world.transaction number = some transaction)
    (step : failAppendStep world number transaction = some next) : Consistent contracts next := by
  obtain ⟨saved, kept, rfl⟩ := Option.map_eq_some_iff.1 step
  have stack : transaction.saved = saved :: transaction.savepoints := by
    simp only [Transaction.saved, kept, Option.toList_some, List.singleton_append]
  obtain ⟨ok, within⟩ := (consistent.transactions number transaction present).restore stack
  exact consistent.set_within present ok within

lemma rollbackToSavepoint_consistent (present : world.transaction number = some transaction)
    (idle : transaction.phase = .idle)
    (step : rollbackToSavepointStep world number transaction = some next) :
    Consistent contracts next := by
  unfold rollbackToSavepointStep at step
  split at step
  · cases step
  next saved older savepoints =>
  cases step
  have stack : transaction.saved = saved :: older := by
    simp only [Transaction.saved, idle, savedWrites, Option.toList_none, List.nil_append, savepoints]
  obtain ⟨ok, within⟩ := (consistent.transactions number transaction present).restore stack
  rw [← idle] at ok
  exact consistent.set_within present ok within

lemma append_consistent (present : world.transaction number = some transaction)
    (idle : transaction.phase = .idle) (draft : EventDraft) (eventId : Uuid) (now : Time) :
    Consistent contracts (appendStep contracts world number draft eventId now transaction) := by
  unfold appendStep
  split
  · exact consistent
  have ok := consistent.transactions number transaction present
  refine consistent.set_within present (ok.save idle rfl rfl rfl ?_ trivial) (Within.refl _)
  simp only [Transaction.saved, savedWrites, idle, Option.toList_some, Option.toList_none,
    List.singleton_append, List.nil_append]

lemma perform_consistent {action : Action} (step : perform contracts world action = some next) :
    Consistent contracts next := by
  cases action with
  | begin =>
    cases step
    exact begin_consistent consistent
  | createRun number runId organizationId =>
    obtain ⟨transaction, found, step⟩ := Option.bind_eq_some_iff.1 step
    obtain ⟨present, idle⟩ := idle_transaction found
    exact createRun_consistent consistent present idle step
  | savepoint number =>
    obtain ⟨transaction, found, rfl⟩ := Option.map_eq_some_iff.1 step
    obtain ⟨present, idle⟩ := idle_transaction found
    have ok := consistent.transactions number transaction present
    refine consistent.set_within present (ok.save idle rfl ?_ ?_ ?_ ?_) (Within.refl _)
    · simp only [idle, pendingRun]
    · simp only [idle, pendingHead]
    · simp only [Transaction.saved, idle, savedWrites, Option.toList_none, List.nil_append]
    · exact ok.sequences
  | release number =>
    obtain ⟨transaction, found, rfl⟩ := Option.map_eq_some_iff.1 step
    obtain ⟨present, idle⟩ := idle_transaction found
    have ok := consistent.transactions number transaction present
    refine consistent.set_within present (ok.grow ok.writes (Within.refl _) ?_ ok.sequences)
      (Within.refl _)
    simp only [Transaction.saved]
    exact (List.tail_sublist _).append_left _
  | rollbackToSavepoint number =>
    obtain ⟨transaction, found, step⟩ := Option.bind_eq_some_iff.1 step
    obtain ⟨present, idle⟩ := idle_transaction found
    exact rollbackToSavepoint_consistent consistent present idle step
  | append number draft eventId now =>
    obtain ⟨transaction, found, rfl⟩ := Option.map_eq_some_iff.1 step
    obtain ⟨present, idle⟩ := idle_transaction found
    exact append_consistent consistent present idle draft eventId now
  | updateRun number =>
    obtain ⟨transaction, present, step⟩ := Option.bind_eq_some_iff.1 step
    exact updateRun_consistent consistent present step
  | upsertHead number =>
    obtain ⟨transaction, present, step⟩ := Option.bind_eq_some_iff.1 step
    exact upsertHead_consistent consistent present step
  | insertEvent number =>
    obtain ⟨transaction, present, step⟩ := Option.bind_eq_some_iff.1 step
    exact insertEvent_consistent consistent present step
  | failAppend number =>
    obtain ⟨transaction, present, step⟩ := Option.bind_eq_some_iff.1 step
    exact failAppend_consistent consistent present step
  | commit number =>
    obtain ⟨transaction, found, rfl⟩ := Option.map_eq_some_iff.1 step
    obtain ⟨present, idle⟩ := idle_transaction found
    exact commit_consistent consistent present idle
  | rollback number =>
    obtain ⟨transaction, present, rfl⟩ := Option.map_eq_some_iff.1 step
    exact consistent.end_ present

end

end

lemma reachable_consistent (reached : Reachable (eventLog contracts) world) :
    Consistent contracts world := by
  refine reached.holds ?_ ?_
  · intro start initial
    have eq : start = fresh := initial
    rw [eq]
    refine ⟨Complete.empty, Complete.empty, rfl, List.nodup_nil, ?_, ?_⟩
    · exact fun _ _ present => nomatch present
    exact fun _ _ _ _ _ present => nomatch present
  · intro before action after consistent step
    exact perform_consistent consistent step

/-! ## A failed `append` -/

section
variable {next : World} {number : Nat} {saved : Writes} {savepoints : List Writes}

/-- The actions that end a call of `append`. -/
def EndsAppend (number : Nat) (action : Action) : Prop :=
  action = .insertEvent number ∨ action = .failAppend number ∨ action = .rollback number

/-- A transaction inside the SAVEPOINT of an `append` that began from `saved`. -/
def InAppend (number : Nat) (saved : Writes) (savepoints : List Writes) (world : World) : Prop :=
  ∃ transaction, world.transaction number = some transaction ∧
    savedWrites transaction.phase = some saved ∧ transaction.savepoints = savepoints

lemma set_frame {other : Nat} (different : other ≠ number) (transaction : Option Transaction) :
    (world.set other transaction).transaction number = world.transaction number := by
  unfold World.transaction World.set
  simp only [List.getElem?_set_ne different]

lemma createRunStep_set {transaction : Transaction} {runId organizationId : Uuid}
    (step : createRunStep world number runId organizationId transaction = some next) :
    ∃ after, next = world.set number after := by
  unfold createRunStep at step
  simp only at step
  split at step
  · exact ⟨_, (Option.some.inj step).symm⟩
  cases step

lemma rollbackToSavepointStep_set {transaction : Transaction}
    (step : rollbackToSavepointStep world number transaction = some next) :
    ∃ after, next = world.set number after := by
  unfold rollbackToSavepointStep at step
  split at step
  · cases step
  exact ⟨_, (Option.some.inj step).symm⟩

lemma updateRunStep_set {transaction : Transaction}
    (step : updateRunStep world number transaction = some next) :
    ∃ after : Transaction, next = world.set number (some after) ∧
      savedWrites after.phase = savedWrites transaction.phase ∧
      after.savepoints = transaction.savepoints := by
  unfold updateRunStep at step
  split at step
  · next phase =>
    split at step
    · obtain ⟨updated, _, rfl⟩ := Option.map_eq_some_iff.1 step
      exact ⟨_, rfl, by simp only [phase, savedWrites], rfl⟩
    cases step
  · cases step

lemma upsertHeadStep_set {transaction : Transaction}
    (step : upsertHeadStep world number transaction = some next) :
    ∃ after : Transaction, next = world.set number (some after) ∧
      savedWrites after.phase = savedWrites transaction.phase ∧
      after.savepoints = transaction.savepoints := by
  unfold upsertHeadStep at step
  split at step
  · next phase =>
    split at step
    · obtain ⟨upserted, _, rfl⟩ := Option.map_eq_some_iff.1 step
      exact ⟨_, rfl, by simp only [phase, savedWrites], rfl⟩
    cases step
  · cases step

lemma insertEventStep_set {transaction : Transaction}
    (step : insertEventStep contracts world number transaction = some next) :
    ∃ after, next = world.set number after := by
  unfold insertEventStep at step
  split at step
  · split at step
    · obtain ⟨inserted, _, rfl⟩ := Option.map_eq_some_iff.1 step
      exact ⟨_, rfl⟩
    cases step
  · cases step

variable {action : Action}

lemma perform_set (step : perform contracts world action = some next) :
    action = .begin ∨ next = world ∨ (∃ other after, action.number = some other ∧
      next = { world.set other after with tables := next.tables } ∧
      (action ≠ .commit other → next.tables = world.tables)) := by
  cases action with
  | begin => exact .inl rfl
  | createRun other runId organizationId =>
    obtain ⟨transaction, found, step⟩ := Option.bind_eq_some_iff.1 step
    obtain ⟨after, rfl⟩ := createRunStep_set step
    exact .inr (Or.inr ⟨other, after, rfl, rfl, fun _ => rfl⟩)
  | savepoint other | release other =>
    obtain ⟨transaction, found, rfl⟩ := Option.map_eq_some_iff.1 step
    exact .inr (Or.inr ⟨other, _, rfl, rfl, fun _ => rfl⟩)
  | rollbackToSavepoint other =>
    obtain ⟨transaction, found, step⟩ := Option.bind_eq_some_iff.1 step
    obtain ⟨after, rfl⟩ := rollbackToSavepointStep_set step
    exact .inr (Or.inr ⟨other, after, rfl, rfl, fun _ => rfl⟩)
  | append other draft eventId now =>
    obtain ⟨transaction, found, rfl⟩ := Option.map_eq_some_iff.1 step
    unfold appendStep
    split
    · exact .inr (Or.inl rfl)
    exact .inr (Or.inr ⟨other, _, rfl, rfl, fun _ => rfl⟩)
  | updateRun other =>
    obtain ⟨transaction, present, step⟩ := Option.bind_eq_some_iff.1 step
    obtain ⟨after, rfl, -⟩ := updateRunStep_set step
    exact .inr (Or.inr ⟨other, some after, rfl, rfl, fun _ => rfl⟩)
  | upsertHead other =>
    obtain ⟨transaction, present, step⟩ := Option.bind_eq_some_iff.1 step
    obtain ⟨after, rfl, -⟩ := upsertHeadStep_set step
    exact .inr (Or.inr ⟨other, some after, rfl, rfl, fun _ => rfl⟩)
  | insertEvent other =>
    obtain ⟨transaction, present, step⟩ := Option.bind_eq_some_iff.1 step
    obtain ⟨after, rfl⟩ := insertEventStep_set step
    exact .inr (Or.inr ⟨other, after, rfl, rfl, fun _ => rfl⟩)
  | failAppend other =>
    obtain ⟨transaction, present, step⟩ := Option.bind_eq_some_iff.1 step
    obtain ⟨restored, _, rfl⟩ := Option.map_eq_some_iff.1 step
    exact .inr (Or.inr ⟨other, _, rfl, rfl, fun _ => rfl⟩)
  | commit other =>
    obtain ⟨transaction, found, rfl⟩ := Option.map_eq_some_iff.1 step
    exact .inr (Or.inr ⟨other, none, rfl, rfl, fun notCommit => absurd rfl notCommit⟩)
  | rollback other =>
    obtain ⟨transaction, present, rfl⟩ := Option.map_eq_some_iff.1 step
    exact .inr (Or.inr ⟨other, none, rfl, rfl, fun _ => rfl⟩)

lemma perform_tables (step : perform contracts world action = some next)
    (notCommit : ∀ other, action ≠ .commit other) : next.tables = world.tables := by
  rcases perform_set step with rfl | rfl | ⟨other, after, -, -, kept⟩
  · cases step
    rfl
  · rfl
  · exact kept (notCommit other)

lemma perform_frame {transaction : Transaction}
    (step : perform contracts world action = some next) (different : action.number ≠ some number)
    (present : world.transaction number = some transaction) :
    next.transaction number = some transaction := by
  rcases perform_set step with rfl | rfl | ⟨other, after, eq, changed, -⟩
  · cases step
    have inside : number < world.transactions.length := by
      by_contra outside
      rw [World.transaction, List.getElem?_eq_none (Nat.le_of_not_lt outside)] at present
      cases present
    unfold World.transaction at present ⊢
    rw [List.getElem?_append_left inside]
    exact present
  · exact present
  · have apart : other ≠ number := by
      rintro rfl
      exact different eq
    rw [changed]
    exact (set_frame apart after).trans present

lemma InAppend.not_idle (inside : InAppend number saved savepoints world) :
    world.idle number = none := by
  obtain ⟨transaction, present, kept, -⟩ := inside
  cases found : world.idle number with
  | none => rfl
  | some other =>
    obtain ⟨present', idle⟩ := idle_transaction found
    rw [present] at present'
    cases present'
    rw [idle] at kept
    cases kept

lemma perform_inAppend (inside : InAppend number saved savepoints world)
    (step : perform contracts world action = some next) (open_ : ¬ EndsAppend number action) :
    InAppend number saved savepoints next := by
  by_cases own : action.number = some number
  · have busy := inside.not_idle
    obtain ⟨transaction, present, kept, stack⟩ := inside
    have continued : ∀ after : Transaction, next = world.set number (some after) →
        savedWrites after.phase = savedWrites transaction.phase →
        after.savepoints = transaction.savepoints → InAppend number saved savepoints next := by
      intro after eq sameSaved sameStack
      refine ⟨after, ?_, sameSaved.trans kept, sameStack.trans stack⟩
      rw [eq, transaction_set number number _ (by rw [present]; rfl), if_pos rfl]
    cases action with
    | begin => cases own
    | createRun | savepoint | release | rollbackToSavepoint | append | commit =>
      cases own
      simp [perform, busy] at step
    | updateRun other =>
      cases own
      simp only [perform, present, Option.bind_some] at step
      obtain ⟨after, eq, sameSaved, sameStack⟩ := updateRunStep_set step
      exact continued after eq sameSaved sameStack
    | upsertHead other =>
      cases own
      simp only [perform, present, Option.bind_some] at step
      obtain ⟨after, eq, sameSaved, sameStack⟩ := upsertHeadStep_set step
      exact continued after eq sameSaved sameStack
    | insertEvent other =>
      cases own
      exact absurd (Or.inl rfl) open_
    | failAppend other =>
      cases own
      exact absurd (Or.inr (Or.inl rfl)) open_
    | rollback other =>
      cases own
      exact absurd (Or.inr (Or.inr rfl)) open_
  · obtain ⟨transaction, present, rest⟩ := inside
    exact ⟨transaction, perform_frame step own present, rest⟩

/-- An `append` that fails inside its SAVEPOINT gives the transaction back what it had. -/
lemma append_restores {begun before last : World} {draft : EventDraft} {eventId : Uuid} {now : Time}
    {prepared : PreparedEventDraft} {middle : List (Move World Action)}
    (accepted : contracts.prepareEventDraft draft eventId now = .ok prepared)
    (start : perform contracts world (.append number draft eventId now) = some begun)
    (statements : Path (eventLog contracts) begun middle before)
    (open_ : ∀ move ∈ middle, ¬ EndsAppend number move.action)
    (failure : perform contracts before (.failAppend number) = some last) :
    last.transaction number = world.transaction number := by
  obtain ⟨transaction, found, rfl⟩ := Option.map_eq_some_iff.1 start
  obtain ⟨present, idle⟩ := idle_transaction found
  have entered : InAppend number transaction.writes transaction.savepoints
      (appendStep contracts world number draft eventId now transaction) := by
    refine ⟨⟨transaction.writes, transaction.savepoints,
      .begun draft prepared now transaction.writes⟩, ?_, rfl, rfl⟩
    simp only [appendStep, accepted]
    rw [transaction_set number number _ (by rw [present]; rfl), if_pos rfl]
  have keeps : ∀ from_ action after, InAppend number transaction.writes transaction.savepoints from_ →
      (eventLog contracts).step from_ action after → ¬ EndsAppend number action →
      InAppend number transaction.writes transaction.savepoints after :=
    fun _ _ _ inside step allowed => perform_inAppend inside step allowed
  obtain ⟨final, found', kept, stack⟩ := statements.preservedWhere keeps open_ entered
  simp only [perform, found', Option.bind_some, failAppendStep, kept, Option.map_some] at failure
  cases failure
  rw [transaction_set number number _ (by rw [found']; rfl), if_pos rfl, present, stack, ← idle]

end

lemma outbox_of_event {events : List Event} (distinct : (events.map Event.id).Nodup)
    {event : Event} (mem : event ∈ events) :
    (events.map (outboxMessage contracts)).filter (fun message => message.eventId == event.id)
      = [outboxMessage contracts event] := by
  induction events with
  | nil => cases mem
  | cons first rest ih =>
    obtain ⟨fresh_, nodup⟩ := List.nodup_cons.1 distinct
    rcases List.mem_cons.1 mem with rfl | later
    · have none_ : (rest.map (outboxMessage contracts)).filter
          (fun message => message.eventId == event.id) = [] := by
        rw [List.filter_eq_nil_iff]
        intro message inside eq
        obtain ⟨other, present, rfl⟩ := List.mem_map.1 inside
        have equal : other.id = event.id := by simpa [outboxMessage] using eq
        exact fresh_ (equal ▸ List.mem_map_of_mem present)
      rw [List.map_cons, List.filter_cons_of_pos (by simp [outboxMessage]), none_]
    · have different : first.id ≠ event.id := by
        intro eq
        exact fresh_ (eq ▸ List.mem_map_of_mem later)
      rw [List.map_cons, List.filter_cons_of_neg (by simpa [outboxMessage] using different)]
      exact ih nodup later

/-- The committed log in every reachable world, and what failed and rolled-back
appends leave behind. -/
theorem eventLog_sequenced (contracts : Contracts) {world : World}
    (reached : Reachable (eventLog contracts) world) :
    (∀ runId, (runNumbering.stream world.tables.events runId).map Event.runSequence
      = (List.range' 1 (counter Run.aggregateVersion world.tables.runs runId)).map some) ∧
    (∀ key, (headNumbering.stream world.tables.events key).map Event.sequence
      = List.range' 1 (counter AggregateHead.sequence world.tables.heads key)) ∧
    (∀ event ∈ world.tables.events,
      world.tables.outbox.filter (fun message => message.eventId == event.id)
        = [outboxMessage contracts event]) ∧
    (∀ number draft eventId now begun before last prepared middle,
      contracts.prepareEventDraft draft eventId now = .ok prepared →
      perform contracts world (.append number draft eventId now) = some begun →
      Path (eventLog contracts) begun middle before →
      (∀ move ∈ middle, ¬ EndsAppend number move.action) →
      perform contracts before (.failAppend number) = some last →
      last.transaction number = world.transaction number ∧
        ((∀ move ∈ middle, ∀ other, move.action ≠ .commit other) → last.tables = world.tables)) ∧
    (∀ number draft eventId now next error,
      contracts.prepareEventDraft draft eventId now = .error error →
      perform contracts world (.append number draft eventId now) = some next → next = world) ∧
    (∀ number next, perform contracts world (.rollback number) = some next →
      next.transaction number = none ∧ next.tables = world.tables) := by
  have consistent := reachable_consistent reached
  refine ⟨?_, ?_, ?_, ?_, ?_, ?_⟩
  · intro runId
    have numbered := consistent.runs.numbered runId
    rw [← consistent.runs.counters runId] at numbered
    exact numbered
  · intro key
    have numbered := consistent.heads.numbered key
    rw [← consistent.heads.counters key] at numbered
    have plain := congrArg (List.filterMap id) numbered
    simpa [headNumbering, List.filterMap_map, Function.comp_def] using plain
  · intro event member
    rw [consistent.outbox]
    exact outbox_of_event consistent.ids member
  · intro number draft eventId now begun before last prepared middle accepted start statements open_
      failure
    refine ⟨append_restores accepted start statements open_ failure, fun noCommit => ?_⟩
    have entered : begun.tables = world.tables := perform_tables start (fun _ same => by cases same)
    let Same : World → Prop := fun state => state.tables = world.tables
    have keeps : ∀ from_ action after, Same from_ → (eventLog contracts).step from_ action after →
        (∀ other, action ≠ .commit other) → Same after :=
      fun _ _ _ same step allowed => (perform_tables step allowed).trans same
    have kept : before.tables = world.tables :=
      statements.preservedWhere keeps noCommit (show Same begun from entered)
    exact (perform_tables failure (fun _ same => by cases same)).trans kept
  · intro number draft eventId now next error rejected step
    obtain ⟨transaction, _, rfl⟩ := Option.map_eq_some_iff.1 step
    simp only [appendStep, rejected]
  · intro number next step
    refine ⟨?_, perform_tables step (fun _ same => by cases same)⟩
    obtain ⟨transaction, present, rfl⟩ := Option.map_eq_some_iff.1 step
    rw [transaction_set number number _ (by rw [present]; rfl), if_pos rfl]

def sampleId (digit : Fin 16) : Uuid := .repeating digit

/-- The contracts on the sample drafts, which need no redaction. -/
def sampleContracts : Contracts where
  prepareEventDraft draft eventId now := .ok ⟨eventId, now, draft.payload⟩
  validEnvelope _ := true
  canonicalDatetime _ := "1970-01-01T00:00:00Z"

def sampleDraft : EventDraft :=
  { name := "tool.started", aggregateType := "run", aggregateId := sampleId 1
    organizationId := sampleId 2, correlationId := sampleId 1, actorType := .system
    actorId := none, payload := [("capability", .str "logs.query"), ("connector", .str "loki")]
    runId := some (sampleId 1), causationId := none, classification := .internal
    schemaVersion := 1 }

def sampleActions : List Action :=
  [.begin, .createRun 0 (sampleId 1) (sampleId 2),
    .append 0 sampleDraft (sampleId 3) 0, .updateRun 0, .upsertHead 0, .insertEvent 0,
    .append 0 sampleDraft (sampleId 4) 0, .updateRun 0, .failAppend 0, .commit 0]

theorem eventLog_sequenced_run : ∃ world, Reachable (eventLog sampleContracts) world ∧
      counter Run.aggregateVersion world.tables.runs (sampleId 1) = 1 ∧
      (runNumbering.stream world.tables.events (sampleId 1)).map Event.runSequence
        = (List.range' 1 1).map some := by
  obtain ⟨moves, world, run, version⟩ : ∃ moves world,
      replay (perform sampleContracts) fresh sampleActions = some (moves, world) ∧
        counter Run.aggregateVersion world.tables.runs (sampleId 1) = 1 :=
    ⟨_, _, rfl, rfl⟩
  have reached : Reachable (eventLog sampleContracts) world :=
    ⟨fresh, moves, rfl, Path.of_replay run⟩
  have numbered := (eventLog_sequenced sampleContracts reached).1 (sampleId 1)
  rw [version] at numbered
  exact ⟨world, reached, version, numbered⟩

end Obsion.Events
