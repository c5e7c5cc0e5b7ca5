import Obsion.Knowledge.Sync.Exact

/-! # Receipts are sound

A receipt names a generation that a claim started and a checkpoint completed; the
stamps of a READY item are those of the last read that was accepted for it. -/

namespace Obsion.Knowledge.Sync

open Obsion.Lib

/-! ## The history of a source -/

/-- The move claims a source for its next generation. -/
inductive Starts (sourceId : Uuid) (generation : Nat) (startedAt : Time)
    (move : Move World Action) : Prop
  | intro (token : Uuid) (source : KnowledgeSyncSource)
      (byClaim : move.action = .claim sourceId token)
      (stored : move.before.store.sources.get? sourceId = some source)
      (fresh : source.scanState = none) (next : source.generation + 1 = generation)
      (now : move.before.now = startedAt)

/-- The columns of a source that tell of its scans. -/
structure SameScans (source source' : KnowledgeSyncSource) : Prop where
  generation : source'.generation = source.generation
  scanStartedAt : source'.scanStartedAt = source.scanStartedAt
  completedGeneration : source'.completedGeneration = source.completedGeneration
  completedScanStartedAt : source'.completedScanStartedAt = source.completedScanStartedAt
  lastSuccessAt : source'.lastSuccessAt = source.lastSuccessAt

inductive History (sourceId : Uuid) (world : World) (action : Action) (world' : World)
    (source' : KnowledgeSyncSource) : Prop
  | registered (unstarted : source'.scanStartedAt = none)
      (incomplete : source'.completedGeneration = none)
  | kept (source : KnowledgeSyncSource)
      (stored : world.store.sources.get? sourceId = some source) (same : SameScans source source')
  | started (source : KnowledgeSyncSource)
      (stored : world.store.sources.get? sourceId = some source)
      (starts : Starts sourceId source'.generation world.now ⟨world, action, world'⟩)
      (scanStartedAt : source'.scanStartedAt = some world.now)
      (completedGeneration : source'.completedGeneration = source.completedGeneration)
      (completedScanStartedAt : source'.completedScanStartedAt = source.completedScanStartedAt)
      (lastSuccessAt : source'.lastSuccessAt = source.lastSuccessAt)
  | completed (source : KnowledgeSyncSource)
      (stored : world.store.sources.get? sourceId = some source)
      (completes : Completes sourceId source.generation world action world')
      (generation : source'.generation = source.generation)
      (scanStartedAt : source'.scanStartedAt = source.scanStartedAt)
      (completedScanStartedAt : source'.completedScanStartedAt = source.scanStartedAt)
      (completedGeneration : source'.completedGeneration
        = source.scanStartedAt.map fun _ => source.generation)
      (lastSuccessAt : source'.lastSuccessAt = some world'.now)

section
variable {sourceId : Uuid} {world world' : World} {action : Action}

lemma SameScans.refl (source : KnowledgeSyncSource) : SameScans source source :=
  ⟨rfl, rfl, rfl, rfl, rfl⟩

lemma History.rewritten {source next source' : KnowledgeSyncSource}
    (rewrites : Rewrites world.store.sources world'.store.sources next)
    (stored' : world'.store.sources.get? sourceId = some source')
    (stored : world.store.sources.get? source.id = some source) (id : next.id = source.id)
    (eq : SameScans source next) : History sourceId world action world' source' := by
  have row := rewrites sourceId
  rw [stored'] at row
  split at row
  · next own =>
    cases row
    rw [← id, own] at stored
    exact .kept source stored eq
  · exact .kept source' row.symm (SameScans.refl source')

lemma change_history (change : Change world action world') {source' : KnowledgeSyncSource}
    (stored' : world'.store.sources.get? sourceId = some source') :
    History sourceId world action world' source' := by
  cases change with
  | kept sources items =>
    rw [sources] at stored'
    exact .kept source' stored' (SameScans.refl source')
  | registered id principal bindingId corpId fresh sources items =>
    have row := sources sourceId
    rw [stored'] at row
    split at row
    · cases row
      exact .registered rfl rfl
    exact .kept source' row.symm (SameScans.refl source')
  | claimed token source byClaim unused stored due sources items =>
    cases persisted : source.scanState with
    | some state =>
      refine .rewritten sources stored' stored rfl ⟨?_, ?_, rfl, rfl, rfl⟩
      · simp [claimed, persisted]
      simp [claimed, persisted]
    | none =>
      have row := sources sourceId
      rw [stored'] at row
      split at row
      · next own =>
        cases row
        have named : source.id = sourceId := own
        subst named
        refine .started source stored ⟨token, source, byClaim, stored, persisted, ?_, rfl⟩ ?_
          rfl rfl rfl
        · simp [claimed, persisted]
        simp [claimed, persisted]
      · exact .kept source' row.symm (SameScans.refl source')
  | completed job source later committed phase byPrepare stage idle enumerated sources items
      checkpointed =>
      have row := sources sourceId
      rw [stored'] at row
      have stored := committed.stored
      split at row
      · next own =>
        cases row
        have named : source.id = sourceId := own
        have claimedId : job.claim.sourceId = sourceId := (get?_id stored).symm.trans named
        have current := (held_iff.1 committed.locked).2.1
        obtain ⟨checks, preferred, elapsed, byPrepare, rfl⟩ := byPrepare
        rw [claimedId] at stored
        refine .completed source stored ⟨job, checks, preferred, elapsed, true, byPrepare,
          committed.running, claimedId, current.symm, checkpointed⟩ rfl rfl rfl ?_ ?_
        · rw [current]
          rfl
        rw [committed.now]
        rfl
      · exact .kept source' row.symm (SameScans.refl source')
  | accepted _ _ _ _ _ _ _ _ committed _ _ _ sources | failed _ _ _ _ committed _ sources =>
    exact .rewritten sources stored' committed.row rfl ⟨rfl, rfl, rfl, rfl, rfl⟩
  | disabled _ stored sources | scheduled _ stored sources =>
    exact .rewritten sources stored' stored rfl ⟨rfl, rfl, rfl, rfl, rfl⟩
  | demanded current stale sources items =>
    rw [sources, Table.get?_update] at stored'
    obtain ⟨source, stored, rfl⟩ := Option.map_eq_some_iff.1 stored'
    refine .kept source stored ?_
    unfold demanded
    split <;> exact ⟨rfl, rfl, rfl, rfl, rfl⟩

/-- The moves that started and completed a generation. -/
structure Contributed (moves : List (Move World Action)) (sourceId : Uuid) (generation : Nat)
    (startedAt completedAt : Time) : Prop where
  started : ∃ move ∈ moves, Starts sourceId generation startedAt move
  completed : ∃ move ∈ moves,
    Completes sourceId generation move.before move.action move.after ∧ move.after.now = completedAt

variable {moves : List (Move World Action)}

lemma Contributed.grow {later : List (Move World Action)} {generation : Nat}
    {startedAt completedAt : Time}
    (contributed : Contributed moves sourceId generation startedAt completedAt) :
    Contributed (moves ++ later) sourceId generation startedAt completedAt := by
  obtain ⟨⟨first, firstIn, starts⟩, last, lastIn, completes⟩ := contributed
  exact ⟨⟨first, List.mem_append_left _ firstIn, starts⟩, last, List.mem_append_left _ lastIn,
    completes⟩

/-- What the columns of a source tell of the moves so far. -/
structure Attested (moves : List (Move World Action)) (source : KnowledgeSyncSource) : Prop where
  started : ∀ startedAt, source.scanStartedAt = some startedAt →
    ∃ move ∈ moves, Starts source.id source.generation startedAt move
  completed : ∀ generation, source.completedGeneration = some generation →
    ∃ startedAt completedAt, source.completedScanStartedAt = some startedAt ∧
      source.lastSuccessAt = some completedAt ∧
      Contributed moves source.id generation startedAt completedAt

def AllAttested (moves : List (Move World Action)) (world : World) : Prop :=
  ∀ source, world.store.sources.get? source.id = some source → Attested moves source

lemma attested_step (attested : AllAttested moves world)
    (run : perform world action = some world') :
    AllAttested (moves ++ [⟨world, action, world'⟩]) world' := by
  intro source' stored'
  have before : ∀ {source : KnowledgeSyncSource}, world.store.sources.get? source'.id = some source →
      Attested moves source ∧ source.id = source'.id := by
    intro source stored
    have named := get?_id stored
    rw [← named] at stored
    exact ⟨attested source stored, named⟩
  have completedBefore : ∀ {source : KnowledgeSyncSource},
      world.store.sources.get? source'.id = some source →
      source'.completedGeneration = source.completedGeneration →
      source'.completedScanStartedAt = source.completedScanStartedAt →
      source'.lastSuccessAt = source.lastSuccessAt →
      ∀ generation, source'.completedGeneration = some generation →
        ∃ startedAt completedAt, source'.completedScanStartedAt = some startedAt ∧
          source'.lastSuccessAt = some completedAt ∧
          Contributed (moves ++ [⟨world, action, world'⟩]) source'.id generation startedAt
            completedAt := by
    intro source stored sameGeneration sameStarted sameSuccess generation done
    obtain ⟨former, named⟩ := before stored
    rw [sameGeneration] at done
    obtain ⟨startedAt, completedAt, first, last, contributed⟩ := former.completed generation done
    rw [named] at contributed
    exact ⟨startedAt, completedAt, sameStarted.trans first, sameSuccess.trans last, contributed.grow⟩
  cases change_history (perform_change run) stored' with
  | registered unstarted incomplete =>
    constructor
    · intro startedAt started
      rw [unstarted] at started
      cases started
    · intro generation done
      rw [incomplete] at done
      cases done
  | kept source stored eq =>
    refine ⟨?_, completedBefore stored eq.completedGeneration eq.completedScanStartedAt
      eq.lastSuccessAt⟩
    intro startedAt started
    rw [eq.scanStartedAt] at started
    obtain ⟨former, named⟩ := before stored
    obtain ⟨move, mem, starts⟩ := former.started startedAt started
    rw [named, ← eq.generation] at starts
    exact ⟨move, List.mem_append_left _ mem, starts⟩
  | started source stored starts scanStartedAt sameGeneration sameStarted sameSuccess =>
    refine ⟨?_, completedBefore stored sameGeneration sameStarted sameSuccess⟩
    intro startedAt started
    rw [scanStartedAt] at started
    cases started
    exact ⟨_, List.mem_append_right _ List.mem_cons_self, starts⟩
  | completed source stored completes generation scanStartedAt completedStarted completedGeneration
      lastSuccessAt =>
      obtain ⟨former, named⟩ := before stored
      have begun : ∀ startedAt, source.scanStartedAt = some startedAt →
          ∃ move ∈ moves ++ [⟨world, action, world'⟩],
            Starts source'.id source.generation startedAt move := by
        intro startedAt started
        obtain ⟨move, mem, starts⟩ := former.started startedAt started
        rw [named] at starts
        exact ⟨move, List.mem_append_left _ mem, starts⟩
      constructor
      · intro startedAt started
        rw [scanStartedAt] at started
        rw [generation]
        exact begun startedAt started
      · intro done completedAt
        rw [completedGeneration, Option.map_eq_some_iff] at completedAt
        obtain ⟨startedAt, started, rfl⟩ := completedAt
        exact ⟨startedAt, world'.now, completedStarted.trans started, lastSuccessAt,
          begun startedAt started, _, List.mem_append_right _ List.mem_cons_self, completes, rfl⟩

lemma attested_run {start : World} (blank : Blank start) (path : Path sync start moves world) :
    AllAttested moves world := by
  refine path.tracked (fun moves before action after holds step => attested_step holds step) ?_
  unfold AllAttested
  rw [blank.1]
  intro source stored
  cases stored

/-- The last read that was accepted for an item: its stamps have not changed since. -/
inductive LastRead (moves : List (Move World Action)) (item : KnowledgeSyncItem)
    (observedAt : Time) (documentId : Uuid) : Prop
  | intro (before : List (Move World Action)) (move : Move World Action)
      (after : List (Move World Action)) (split : moves = before ++ move :: after)
      (leased : LeasedBy move item observedAt documentId)
      (unchanged : ∀ later ∈ after, ∃ former ∈ later.after.store.items, SameLease former item)

def Stamped (moves : List (Move World Action)) (world : World) : Prop :=
  ∀ key item, world.store.items.get? key = some item → Granted item →
    ∃ observedAt documentId, LastRead moves item observedAt documentId

lemma stamped_step (holds : Stamped moves world) (run : perform world action = some world') :
    Stamped (moves ++ [⟨world, action, world'⟩]) world' := by
  intro key item' found granted
  rcases change_lease (perform_change run) found granted with ⟨item, stored, eq⟩ | accepted
  · obtain ⟨observedAt, documentId, before, move, after, rfl, leased, unchanged⟩ :=
      holds key item stored (eq.granted granted)
    refine ⟨observedAt, documentId, before, move, after ++ [⟨world, action, world'⟩], by simp,
      leased.transfer eq, ?_⟩
    intro later mem
    rcases List.mem_append.1 mem with earlier | last
    · obtain ⟨former, formerIn, formerSame⟩ := unchanged later earlier
      exact ⟨former, formerIn, formerSame.trans eq⟩
    rw [List.mem_singleton] at last
    subst last
    exact ⟨item', (Table.get?_eq_some.1 found).1, SameLease.refl item'⟩
  · obtain ⟨observedAt, documentId, leased⟩ := accepted
    refine ⟨observedAt, documentId, moves, _, [], rfl, leased, ?_⟩
    intro later mem
    cases mem

lemma stamped_run {start : World} (blank : Blank start) (path : Path sync start moves world) :
    Stamped moves world := by
  refine path.tracked (fun moves before action after holds step => stamped_step holds step) ?_
  intro key item found
  rw [blank.2.1] at found
  cases found

end

section
variable {now requestedAt : Time} {current : Principal} {known : Option (List Uuid)}
  {expired : Bool} {store : Store} {proof : LiveKnowledgeProof}

lemma receipt?_some {source : KnowledgeSyncSource} {receipt : SourceScanReceipt}
    (run : receipt? now requestedAt source = some receipt) :
    receipt.sourceId = source.id ∧ source.completedGeneration = some receipt.generation ∧
      source.completedScanStartedAt = some receipt.startedAt ∧
      source.lastSuccessAt = some receipt.completedAt ∧ requestedAt ≤ receipt.startedAt := by
  obtain ⟨generation, completedGeneration, run⟩ := Option.bind_eq_some_iff.1 run
  obtain ⟨startedAt, started, run⟩ := Option.bind_eq_some_iff.1 run
  obtain ⟨completedAt, completed, run⟩ := Option.bind_eq_some_iff.1 run
  split at run
  · next current =>
    cases run
    exact ⟨rfl, completedGeneration, started, completed, current.2.2.1⟩
  · cases run

lemma awaitRound_proof
    (run : awaitRound now current requestedAt known expired store = .proof proof) :
    proof.requestedAt = requestedAt ∧
      (∀ receipt ∈ proof.sources, ∃ source, store.sources.get? source.id = some source ∧
        receipt? now requestedAt source = some receipt) ∧
      ∀ source ∈ store.sources, source.organizationId = current.organizationId →
        source.userId = current.id → source.active = true →
        ∃ receipt ∈ proof.sources, receipt.sourceId = source.id := by
  have stored : ∀ {source : KnowledgeSyncSource}, source ∈ (ownSources current store.sources).take 17 →
      store.sources.get? source.id = some source := by
    intro source mem
    have own := (Table.mem_select.1 (List.mem_of_mem_take mem)).1
    exact Table.get?_eq_some.2 ⟨own, rfl⟩
  unfold awaitRound at run
  simp only at run
  split at run
  · cases run
  split at run
  · cases run
  split at run
  · cases run
  next few =>
  split at run
  · cases run
  split at run
  · next full =>
    have parts : proof.requestedAt = requestedAt ∧ proof.sources
        = ((ownSources current store.sources).take 17).filterMap
          (receipt? now requestedAt) := by
      split at run
      · cases run
      cases run
      exact ⟨rfl, rfl⟩
    rw [parts.2]
    refine ⟨parts.1, ?_, ?_⟩
    · intro receipt mem
      obtain ⟨source, own, found⟩ := List.mem_filterMap.1 mem
      exact ⟨source, stored own, found⟩
    · intro source mem organization user active
      have own : source ∈ ownSources current store.sources := by
        refine Table.mem_select.2 ⟨mem, ?_⟩
        simp [organization, user, active]
      have all : (ownSources current store.sources).take 17
          = ownSources current store.sources := by
        rw [List.take_eq_self_iff]
        rw [List.length_take] at few
        omega
      rw [← all] at own
      have answered := List.filterMap_length_eq_length.1 full source own
      obtain ⟨receipt, found⟩ := Option.isSome_iff_exists.1 answered
      exact ⟨receipt, List.mem_filterMap.2 ⟨source, own, found⟩, (receipt?_some found).1⟩
  · split at run <;> cases run

lemma clause_admits {principal : Principal} {items : Items} {document : Document}
    (admits : proof.clause principal items document = true) :
    ∃ item ∈ items, item.documentId = some document.id ∧ item.status = .ready ∧
      (∃ checkedAt, item.checkedAt = some checkedAt ∧ proof.requestedAt ≤ checkedAt) ∧
      ∃ receipt ∈ proof.sources, item.sourceId = receipt.sourceId
        ∧ receipt.generation ≤ item.readGeneration := by
  rw [LiveKnowledgeProof.clause, Bool.and_eq_true, List.any_eq_true] at admits
  obtain ⟨_, item, mem, admitted⟩ := admits
  simp only [fresh, Bool.and_eq_true, decide_eq_true_eq, Option.any_eq_true, List.any_eq_true]
    at admitted
  obtain ⟨named, ⟨⟨_, ready⟩, checkedAt, checked, late⟩, receipt, listed, own, recent⟩ := admitted
  exact ⟨item, mem, named, ready, ⟨checkedAt, checked, late⟩, receipt, listed, own, recent⟩

end

/-- A document that a proof admits was read for it, and every active source contributed. -/
theorem live_sound {start world later : World} {moves after : List (Move World Action)}
    {current : Principal} {requestedAt : Time} {known : Option (List Uuid)} {expired : Bool}
    {proof : LiveKnowledgeProof} (blank : Blank start) (path : Path sync start moves world)
    (awaited : awaitRound world.now current requestedAt known expired world.store = .proof proof)
    (onward : Path sync world after later) :
    (∀ principal document, proof.clause principal later.store.items document = true →
      ∃ item ∈ later.store.items, item.documentId = some document.id ∧
        ∃ observedAt, requestedAt ≤ observedAt ∧ LastRead (moves ++ after) item observedAt document.id ∧
          ∃ generation startedAt completedAt, generation ≤ item.readGeneration ∧
            requestedAt ≤ startedAt ∧
            Contributed moves item.sourceId generation startedAt completedAt) ∧
    ∀ source ∈ world.store.sources, source.organizationId = current.organizationId →
      source.userId = current.id → source.active = true →
      ∃ receipt ∈ proof.sources, receipt.sourceId = source.id ∧ requestedAt ≤ receipt.startedAt ∧
        Contributed moves source.id receipt.generation receipt.startedAt receipt.completedAt := by
  obtain ⟨asked, receipts, complete⟩ := awaitRound_proof awaited
  have contributed : ∀ receipt ∈ proof.sources, requestedAt ≤ receipt.startedAt ∧
      Contributed moves receipt.sourceId receipt.generation receipt.startedAt
        receipt.completedAt := by
    intro receipt member
    obtain ⟨source, stored, found⟩ := receipts receipt member
    obtain ⟨named, generation, started, completed, late⟩ := receipt?_some found
    obtain ⟨startedAt, completedAt, first, last, both⟩ :=
      (attested_run blank path source stored).completed receipt.generation generation
    rw [started] at first
    rw [completed] at last
    cases first
    cases last
    rw [← named] at both
    exact ⟨late, both⟩
  constructor
  · intro principal document admits
    obtain ⟨item, member, named, ready, ⟨checkedAt, checked, late⟩, receipt, listed, own, recent⟩ :=
      clause_admits admits
    have stored : later.store.items.get? item.key = some item :=
      Table.get?_eq_some.2 ⟨member, rfl⟩
    obtain ⟨observedAt, documentId, before, move, between, split, leased, unchanged⟩ :=
      stamped_run blank (path.append onward) item.key item stored (Or.inl ready)
    have sameTime : observedAt = checkedAt :=
      Option.some.inj (leased.checkedAt.symm.trans checked)
    have sameDocument : documentId = document.id :=
      Option.some.inj (leased.document.symm.trans named)
    subst sameTime sameDocument
    rw [asked] at late
    obtain ⟨begun, both⟩ := contributed receipt listed
    rw [← own] at both
    exact ⟨item, member, named, observedAt, late,
      ⟨before, move, between, split, leased, unchanged⟩, receipt.generation, receipt.startedAt,
      receipt.completedAt, recent, begun, both⟩
  · intro source member organization user active
    obtain ⟨receipt, listed, named⟩ := complete source member organization user active
    obtain ⟨begun, both⟩ := contributed receipt listed
    rw [named] at both
    exact ⟨receipt, listed, named, begun, both⟩

def sampleReader : Principal := ⟨sampleId 0, sampleOrganization, ["knowledge.read"]⟩

/-- The sample scan to its completion, next to a source that was paused. -/
def samplePaused : List Action :=
  [.register (sampleId 20) sampleUser (sampleId 6) "paused",
    .disable sampleUser (sampleId 20) (.ok ())] ++ sampleScan ++
    [.claim sampleSource (sampleId 16), sampleCompletion]

theorem live_sound_handbook : ∃ moves world proof, Path sync sampleStart moves world ∧
    awaitRound world.now sampleReader 0 none false world.store = .proof proof ∧
    ∃ document item observedAt, proof.clause sampleReader world.store.items document = true ∧
      LastRead moves item observedAt document.id := by
  obtain ⟨moves, world, proof, document, replayed, awaited, admitted⟩ :
      ∃ (moves : List (Move World Action)) (world : World) (proof : LiveKnowledgeProof)
        (document : Document),
        replay perform sampleStart samplePaused = some (moves, world) ∧
        awaitRound world.now sampleReader 0 none false world.store = .proof proof ∧
        world.store.documents.documents.rows = [document] ∧
        proof.clause sampleReader world.store.items document = true :=
    ⟨_, _, _, _, rfl, rfl, rfl, rfl⟩
  have path : Path sync sampleStart moves world := Path.of_replay replayed
  obtain ⟨item, _, _, observedAt, _, lastRead, _⟩ :=
    (live_sound ⟨rfl, rfl, rfl⟩ path awaited (Path.nil world)).1 sampleReader document admitted.2
  rw [List.append_nil] at lastRead
  exact ⟨moves, world, proof, path, awaited, document, item, observedAt, admitted.2, lastRead⟩

/-- A paused source contributes nothing to a proof of its principal. -/
theorem live_without_paused : ∃ moves world proof source, Path sync sampleStart moves world ∧
    awaitRound world.now sampleReader 0 none false world.store = .proof proof ∧
    source ∈ world.store.sources ∧ source.organizationId = sampleReader.organizationId ∧
    source.userId = sampleReader.id ∧
    ∀ receipt ∈ proof.sources, receipt.sourceId ≠ source.id := by
  obtain ⟨moves, world, proof, source, replayed, awaited, stored, own, absent⟩ :
      ∃ (moves : List (Move World Action)) (world : World) (proof : LiveKnowledgeProof)
        (source : KnowledgeSyncSource),
        replay perform sampleStart samplePaused = some (moves, world) ∧
        awaitRound world.now sampleReader 0 none false world.store = .proof proof ∧
        world.store.sources.get? (sampleId 20) = some source ∧
        (source.organizationId = sampleReader.organizationId ∧ source.userId = sampleReader.id) ∧
        (proof.sources.all fun receipt => receipt.sourceId ≠ source.id) = true :=
    ⟨_, _, _, _, rfl, rfl, rfl, ⟨rfl, rfl⟩, rfl⟩
  refine ⟨moves, world, proof, source, Path.of_replay replayed, awaited,
    (Table.get?_eq_some.1 stored).1, own.1, own.2, ?_⟩
  intro receipt member
  exact of_decide_eq_true (List.all_eq_true.1 absent receipt member)

end Obsion.Knowledge.Sync
