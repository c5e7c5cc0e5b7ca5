import Obsion.Knowledge.Sync.Explore
import Obsion.Knowledge.Sync.Lease

/-! # Scans are exact

A generation that completes has listed every node of the forest in exactly one page,
and the items it did not see are revoked.  A tick whose lease is gone writes nothing. -/

namespace Obsion.Knowledge.Sync

open Obsion.Lib

def OutputBody.listedNodes : OutputBody → List String
  | .discovery (.nodes _ _ records) _ => records.map NodeRecord.nodeId
  | _ => []

def GatewayResult.listedNodes (result : GatewayResult) : List String :=
  (result.output.map fun output => output.body.listedNodes).getD []

/-- The nodes of the page that an action commits in a generation of a source. -/
def processed (sourceId : Uuid) (generation : Nat) (world : World) : Action → List String
  | .accept token args elapsed checkpointed =>
    match world.jobs.get? token with
    | some ⟨claim, .returned payload connectorId result⟩ =>
      match acceptTick world.now (world.now + elapsed) (world.now + elapsed + checkpointed) claim
          payload result connectorId args world.store with
      | .ok (some _) =>
        if claim.sourceId = sourceId ∧ claim.generation = generation then result.listedNodes
        else []
      | _ => []
    | _ => []
  | _ => []

def processedBy (sourceId : Uuid) (generation : Nat)
    (moves : List (Move (World × List Issued) Action)) : List String :=
  moves.flatMap fun move => processed sourceId generation move.before.1 move.action

def SeenAt (items : Items) (sourceId : Uuid) (generation : Nat) (nodeId : String) : Prop :=
  ∃ item, items.get? (sourceId, nodeId) = some item ∧ item.seenGeneration = generation

variable {result : GatewayResult} {output : Output}

lemma listedNodes_given {body : OutputBody} (given : result.output = some output)
    (eq : output.body = body) :
    result.listedNodes = body.listedNodes := by
  rw [GatewayResult.listedNodes, given, Option.map_some, Option.getD_some, eq]

section
variable {forest : Forest} {sourceId : Uuid} {issued : List Issued} {world world' : World}
  {action : Action}

variable {items : Items} {generation : Nat} {nodeId : String} {source : KnowledgeSyncSource}
  {pages : Nat → List String} {state : World × List Issued} {enumerationComplete : Bool} {job : Job}

lemma SameSeen.seenAt {items' : Items} (eq : SameSeen sourceId items items') :
    SeenAt items' sourceId generation nodeId ↔ SeenAt items sourceId generation nodeId := by
  have transferred : ∀ {left right : Items}, SameSeen sourceId left right →
      SeenAt left sourceId generation nodeId → SeenAt right sourceId generation nodeId := by
    rintro left right eq ⟨item, stored, seen⟩
    obtain ⟨item', found, columns⟩ := eq.found stored
    simp only [seenColumns, Prod.mk.injEq] at columns
    exact ⟨item', found, columns.1.trans seen⟩
  exact ⟨transferred eq.symm, transferred eq⟩

lemma seenAt_visitAll {depth : Nat} {records : List NodeRecord}
    (new : NewNodes source items depth records) :
    SeenAt (visitAll source records items) source.id source.generation nodeId ↔
      SeenAt items source.id source.generation nodeId ∨ nodeId ∈ records.map NodeRecord.nodeId := by
  by_cases inPage : nodeId ∈ records.map NodeRecord.nodeId
  · obtain ⟨record, mem, rfl⟩ := List.mem_map.1 inPage
    exact iff_of_true ⟨_, get?_visitAll new.distinct mem, rfl⟩ (Or.inr inPage)
  have other : ∀ record ∈ records, (source.id, record.nodeId) ≠ (source.id, nodeId) := by
    intro record mem eq
    have sameNode : record.nodeId = nodeId := congrArg Prod.snd eq
    exact inPage (sameNode ▸ List.mem_map_of_mem mem)
  rw [or_iff_left inPage, SeenAt, SeenAt, get?_visitAll_other other]

lemma change_generation (change : Change world action world') {source' : KnowledgeSyncSource}
    (stored' : world'.store.sources.get? sourceId = some source') :
    (world.store.sources.get? sourceId = none ∧ source'.generation = 0) ∨
      ∃ source, world.store.sources.get? sourceId = some source ∧
        (source'.generation = source.generation ∨ source'.generation = source.generation + 1) := by
  have rewritten : ∀ {source next : KnowledgeSyncSource},
      Rewrites world.store.sources world'.store.sources next →
      world.store.sources.get? source.id = some source → next.id = source.id →
      (next.generation = source.generation ∨ next.generation = source.generation + 1) →
      ∃ source, world.store.sources.get? sourceId = some source ∧
        (source'.generation = source.generation ∨ source'.generation = source.generation + 1) := by
    intro source next rewrites stored id generation
    have row := rewrites sourceId
    rw [stored'] at row
    split at row
    · next own =>
      cases row
      rw [← id, own] at stored
      exact ⟨source, stored, generation⟩
    · exact ⟨source', row.symm, Or.inl rfl⟩
  cases change with
  | kept sources items =>
    rw [sources] at stored'
    exact .inr ⟨source', stored', Or.inl rfl⟩
  | registered id principal bindingId corpId fresh sources items =>
    have row := sources sourceId
    rw [stored'] at row
    split at row
    · next own =>
      cases row
      rw [show id = sourceId from own] at fresh
      exact .inl ⟨fresh, rfl⟩
    · exact .inr ⟨source', row.symm, Or.inl rfl⟩
  | claimed token source byClaim unused stored due sources items =>
    refine .inr (rewritten sources stored rfl ?_)
    simp only [claimed]
    split
    · exact .inl rfl
    exact .inr rfl
  | completed _ _ _ committed _ _ _ _ _ sources | accepted _ _ _ _ _ _ _ _ committed _ _ _ sources
  | failed _ _ _ _ committed _ sources =>
    exact .inr (rewritten sources committed.row rfl (Or.inl rfl))
  | disabled _ stored sources | scheduled _ stored sources =>
    exact .inr (rewritten sources stored rfl (Or.inl rfl))
  | demanded current stale sources items =>
    rw [sources, Table.get?_update] at stored'
    obtain ⟨source, stored, rfl⟩ := Option.map_eq_some_iff.1 stored'
    refine .inr ⟨source, stored, Or.inl ?_⟩
    unfold demanded
    split <;> rfl

lemma change_kept (change : Change world action world')
    (stored : world.store.sources.get? sourceId = some source) :
    ∃ source', world'.store.sources.get? sourceId = some source' ∧
      source.generation ≤ source'.generation := by
  have rewritten : ∀ {former next : KnowledgeSyncSource},
      Rewrites world.store.sources world'.store.sources next →
      world.store.sources.get? former.id = some former → next.id = former.id →
      former.generation ≤ next.generation →
      ∃ source', world'.store.sources.get? sourceId = some source' ∧
        source.generation ≤ source'.generation := by
    intro former next rewrites formerStored id generation
    have row := rewrites sourceId
    split at row
    · next own =>
      rw [← id, own, stored] at formerStored
      cases formerStored
      exact ⟨next, row, generation⟩
    · exact ⟨source, row.trans stored, le_refl _⟩
  cases change with
  | kept sources items =>
    rw [sources]
    exact ⟨source, stored, le_refl _⟩
  | registered id principal bindingId corpId fresh sources items =>
    have row := sources sourceId
    split at row
    · next own =>
      rw [show id = sourceId from own, stored] at fresh
      cases fresh
    · exact ⟨source, row.trans stored, le_refl _⟩
  | claimed token former byClaim unused formerStored due sources items =>
    refine rewritten sources formerStored rfl ?_
    simp only [claimed]
    exact Nat.le_add_right _ _
  | completed _ _ _ committed _ _ _ _ _ sources | accepted _ _ _ _ _ _ _ _ committed _ _ _ sources
  | failed _ _ _ _ committed _ sources =>
    exact rewritten sources committed.row rfl (le_refl _)
  | disabled _ formerStored sources | scheduled _ formerStored sources =>
    exact rewritten sources formerStored rfl (le_refl _)
  | demanded current stale sources items =>
    rw [sources, Table.get?_update, stored]
    refine ⟨_, rfl, ?_⟩
    unfold demanded
    split <;> exact le_refl _

/-- An action that commits no page of nodes of the source, or one that does. -/
inductive Recording (sourceId : Uuid) (world : World) (action : Action) (world' : World) : Prop
  | nothing (none_ : ∀ generation, processed sourceId generation world action = [])
      (same : SameSeen sourceId world.store.items world'.store.items)
  | page (source source' : KnowledgeSyncSource) (depth : Nat) (records : List NodeRecord)
      (stored : world.store.sources.get? sourceId = some source)
      (stored' : world'.store.sources.get? sourceId = some source')
      (generation : source'.generation = source.generation)
      (new : NewNodes source world.store.items depth records)
      (items : world'.store.items = visitAll source records world.store.items)
      (pages : ∀ generation, processed sourceId generation world action
        = if source.generation = generation then records.map NodeRecord.nodeId else [])

lemma recording_step (exploring : Exploring forest sourceId issued world)
    (run : perform world action = some world') : Recording sourceId world action world' := by
  cases action with
  | accept token args elapsed checkpointed =>
    obtain ⟨⟨claim, _⟩, payload, connectorId, result, named, found, phase, outcome⟩ :=
      perform_accept run
    simp only at phase
    subst phase named
    cases outcome with
    | kept refused store =>
      refine .nothing ?_ ?_
      · intro generation
        simp only [processed, found]
      rw [store]
      exact SameSeen.refl
    | committed store source state accepted commit wrote sources =>
      have pages : ∀ generation, processed sourceId generation world
          (.accept (Job.token ⟨claim, .returned payload connectorId result⟩) args elapsed
            checkpointed)
          = if claim.sourceId = sourceId ∧ claim.generation = generation then
              result.listedNodes else [] := by
        intro generation
        simp only [processed, found, accepted]
      have id := get?_id commit.stored
      by_cases own : source.id = sourceId
      · have fenced := exploring.committed commit own
        subst own
        have due := fenced.due payload rfl
        generalize itemsEq : world'.store.items = items' at wrote
        cases wrote with
        | read output read given body node workspace wrote =>
          refine .nothing ?_ ?_
          · intro generation
            rw [pages, listedNodes_given given body]
            exact ite_self _
          · rw [itemsEq]
            exact sameSeen_read due wrote
        | page output page cursor given body run =>
          have listed := listedNodes_given given body
          cases acceptPage_iff.1 run with
          | workspaces records former stage advances new =>
            refine .nothing ?_ ?_
            · intro generation
              rw [pages, listed]
              exact ite_self _
            · rw [itemsEq]
              exact SameSeen.refl
          | nodes workspaceId parentId records former active rest stage queue advances new =>
            have row := (sources source.id).trans (if_pos rfl)
            have stored := commit.stored
            rw [← id] at stored
            refine .page source _ active.depth records stored row rfl new itemsEq ?_
            intro generation
            have claimed : claim.generation = source.generation := fenced.generation
            have named : claim.sourceId = source.id := id.symm
            rw [pages, listed, claimed, named]
            simp only [true_and]
            rfl
      · refine .nothing ?_ ?_
        · intro generation
          rw [pages, if_neg]
          exact fun both => own (id.trans both.1)
        · exact wrote.sameSeen own
  | _ =>
    refine .nothing (fun _ => rfl) ((change_seen _ (perform_change run)).resolve_right ?_)
    rintro ⟨⟨token, args, elapsed, checkpointed, eq⟩, -⟩
    cases eq

/-- The pages of every generation so far, against what the source has seen. -/
structure Recorded (sourceId : Uuid) (pages : Nat → List String) (world : World) : Prop where
  unstarted : ∀ generation, (∀ source, world.store.sources.get? sourceId = some source →
    source.generation < generation) → pages generation = []
  distinct : ∀ source, world.store.sources.get? sourceId = some source → (pages source.generation).Nodup
  seen : ∀ source, world.store.sources.get? sourceId = some source → ∀ nodeId,
    nodeId ∈ pages source.generation
      ↔ SeenAt world.store.items sourceId source.generation nodeId

lemma Recorded.unseen (exploring : Exploring forest sourceId issued world)
    (recorded : Recorded sourceId pages world)
    (later : ∀ source, world.store.sources.get? sourceId = some source →
      source.generation < generation) :
    (pages generation).Nodup ∧ ∀ nodeId, nodeId ∈ pages generation
      ↔ SeenAt world.store.items sourceId generation nodeId := by
  rw [recorded.unstarted generation later]
  refine ⟨List.nodup_nil, ?_⟩
  intro nodeId
  refine iff_of_false List.not_mem_nil ?_
  rintro ⟨item, stored, seen⟩
  cases row : world.store.sources.get? sourceId with
  | none =>
    rw [exploring.unregistered row] at stored
    cases stored
  | some source =>
    have bound := later source row
    have named := get?_id row
    subst named
    have older := ((exploring.scanned source row).seen nodeId item stored).1
    omega

lemma recorded_step (exploring : Exploring forest sourceId issued world)
    (recorded : Recorded sourceId pages world) (run : perform world action = some world') :
    Recorded sourceId (fun generation => pages generation
      ++ processed sourceId generation world action) world' := by
  have change := perform_change run
  cases recording_step exploring run with
  | nothing none_ eq =>
    simp only [none_, List.append_nil]
    -- a row that is written is in its former generation, or it starts the next one
    have known : ∀ source', world'.store.sources.get? sourceId = some source' →
        (pages source'.generation).Nodup ∧ ∀ nodeId, nodeId ∈ pages source'.generation
          ↔ SeenAt world.store.items sourceId source'.generation nodeId := by
      intro source' stored'
      rcases change_generation change stored' with ⟨absent, first⟩ | ⟨source, stored, kept | next⟩
      · refine recorded.unseen exploring ?_
        intro source stored
        rw [absent] at stored
        cases stored
      · rw [kept]
        exact ⟨recorded.distinct source stored, recorded.seen source stored⟩
      · refine recorded.unseen exploring ?_
        intro other storedToo
        rw [stored] at storedToo
        cases storedToo
        omega
    constructor
    · intro generation later
      apply recorded.unstarted
      intro source stored
      exact (change_kept change stored).elim fun source' both =>
        lt_of_le_of_lt both.2 (later source' both.1)
    · exact fun source' stored' => (known source' stored').1
    · intro source' stored' nodeId
      rw [eq.seenAt]
      exact (known source' stored').2 nodeId
  | page source source' depth records stored stored' generation new items pages_ =>
    have named := get?_id stored
    subst named
    have current : ∀ row, world'.store.sources.get? source.id = some row →
        row.generation = source.generation := by
      intro row found
      rw [stored'] at found
      cases found
      exact generation
    constructor
    · intro later bound
      have above := bound source' stored'
      rw [generation] at above
      rw [pages_, if_neg (Nat.ne_of_lt above), List.append_nil]
      apply recorded.unstarted
      intro row found
      rw [stored] at found
      cases found
      exact above
    · intro row found
      rw [current row found, pages_, if_pos rfl, List.nodup_append]
      refine ⟨recorded.distinct source stored, new.distinct, ?_⟩
      intro left leftIn right rightIn eq
      subst eq
      obtain ⟨record, mem, rfl⟩ := List.mem_map.1 rightIn
      obtain ⟨item, itemStored, seen⟩ := (recorded.seen source stored _).1 leftIn
      have unseen := new.unseen record mem
      rw [seenNow_iff.2 ⟨item, itemStored, seen⟩] at unseen
      cases unseen
    · intro row found nodeId
      rw [current row found, pages_, if_pos rfl, List.mem_append, items, seenAt_visitAll new,
        recorded.seen source stored nodeId]

structure Tracked (forest : Forest) (sourceId : Uuid)
    (moves : List (Move (World × List Issued) Action)) (state : World × List Issued) : Prop where
  exploring : Exploring forest sourceId state.2 state.1
  recorded : Recorded sourceId (fun generation => processedBy sourceId generation moves) state.1

lemma tracked_run {start : World × List Issued} {moves : List (Move (World × List Issued) Action)}
    (initial : (scan forest sourceId).init start)
    (path : Path (scan forest sourceId) start moves state) :
    Tracked forest sourceId moves state := by
  refine path.tracked (fun moves before action after holds step => ?_) ?_
  · refine ⟨exploring_step holds.exploring step, ?_⟩
    have next := recorded_step holds.exploring holds.recorded step.1
    simpa [processedBy] using next
  · refine ⟨exploring_run initial (Path.nil start), fun _ _ => rfl, ?_, ?_⟩
    all_goals
      rw [initial.1.1]
      intro source stored
      cases stored

/-- The transaction completes a generation of a source. -/
inductive Completes (sourceId : Uuid) (generation : Nat) (world : World) (action : Action)
    (world' : World) : Prop
  | intro (job : Job) (checks : Except ObsionError Uuid) (preferred : String) (elapsed : Nat)
      (enumerationComplete : Bool)
      (byPrepare : action = .prepare job.token checks preferred elapsed)
      (running : world.jobs.get? job.token = some job) (own : job.claim.sourceId = sourceId)
      (claimed : job.claim.generation = generation)
      (checkpointed : checkpointSource (world.now + elapsed) job.claim
        (.complete enumerationComplete) world.store = .ok (some world'.store))

/-- The items of a source after a generation of its forest. -/
structure Exact (forest : Forest) (sourceId : Uuid) (generation : Nat) (items : Items) : Prop where
  seen : ∀ nodeId, SeenAt items sourceId generation nodeId ↔
    ∃ record, forest.Reaches record ∧ record.nodeId = nodeId
  read : ∀ record, forest.Reaches record → record.kind = "adoc" →
    ∃ item, items.get? (sourceId, record.nodeId) = some item ∧ item.readGeneration = generation
  missing : ∀ item ∈ items, item.sourceId = sourceId → item.seenGeneration ≠ generation →
    item.status = .missing ∧ item.accessExpiresAt = none

lemma checkpoint_writes {now : Time} {claim : Claim} {store : Store} :
    checkpointSource now claim (.complete enumerationComplete) store ≠ .ok (some store) := by
  intro eq
  obtain ⟨source, stored, holds, sources, _⟩ := checkpointSource_some eq
  have row := congrArg (fun table => Table.get? table claim.sourceId) sources
  rw [stored, Table.get?_put, if_pos ((released_id _).trans (get?_id stored))] at row
  have leased := leased_of_held holds
  rw [Option.some.inj row] at leased
  cases leased

lemma completes_spec {checks : Except ObsionError Uuid} {preferred : String} {elapsed : Nat}
    (running : world.jobs.get? job.token = some job)
    (checkpointed : checkpointSource (world.now + elapsed) job.claim
      (.complete enumerationComplete) world.store = .ok (some world'.store))
    (claimed : job.claim.generation = generation)
    (run : perform world (.prepare job.token checks preferred elapsed) = some world') :
    ∃ source, world.store.sources.get? source.id = some source ∧
      job.claim.sourceId = source.id ∧ source.generation = generation ∧
      held world.now job.claim source = true ∧ job.claim.state.stage = .read ∧
      world.store.items.select (unread source) = [] ∧
      world'.store.items = world.store.items.update (swept job.claim source)
        (key_swept job.claim source) := by
  obtain ⟨holder, holderRow, _, _, items, _⟩ := checkpointSource_some checkpointed
  obtain ⟨found, stored, performed⟩ := Option.bind_eq_some_iff.1 run
  rw [running] at stored
  cases stored
  split at performed
  · cases performed
    unfold prepareTick at checkpointed
    split at checkpointed
    · exact absurd checkpointed checkpoint_writes
    next source lock =>
    obtain ⟨row, _, holds⟩ := locked_some lock
    have named := get?_id row
    have eq : holder = source := Option.some.inj (holderRow.symm.trans row)
    subst eq
    simp only at checkpointed
    split at checkpointed
    · exact absurd checkpointed checkpoint_writes
    · exact absurd checkpointed checkpoint_writes
    · next called =>
      obtain ⟨_, _, called⟩ := of_bind_ok called
      obtain ⟨prepared, next, called⟩ := of_bind_ok called
      cases called
      obtain ⟨stage, idle, _⟩ := nextCall_complete next
      rw [← named] at row
      exact ⟨holder, row, named.symm, (held_iff.1 holds).2.1.trans claimed, holds, stage, idle, items⟩
  · cases performed

lemma exact_of_completes {state' : World × List Issued}
    (exploring : Exploring forest sourceId state.2 state.1)
    (completes : Completes sourceId generation state.1 action state'.1)
    (run : perform state.1 action = some state'.1) :
    Exact forest sourceId generation state'.1.store.items ∧
      (∃ source, state.1.store.sources.get? sourceId = some source
        ∧ source.generation = generation) ∧
      ∀ nodeId, SeenAt state.1.store.items sourceId generation nodeId ↔
        ∃ record, forest.Reaches record ∧ record.nodeId = nodeId := by
  obtain ⟨job, checks, preferred, elapsed, enumerationComplete, rfl, running, own, claimed,
    checkpointed⟩ := completes
  obtain ⟨source, stored, named, current, holds, stage, idle, items⟩ :=
    completes_spec running checkpointed claimed run
  have eq : source.id = sourceId := named.symm.trans own
  subst eq
  obtain ⟨lease, leased, token⟩ : ∃ lease, source.lease = some lease ∧ lease.token = job.token := by
    obtain ⟨_, _, lease, leased, token, _⟩ := held_iff.1 holds
    exact ⟨lease, leased, token⟩
  have fenced := exploring.fenced source stored lease leased job (by rw [token]; exact running) own
  have scanned := exploring.scanned source stored
  obtain ⟨done, scanning⟩ := scanned.scanning (Or.inr (leased_of_held holds))
  have closed : (source.scanState.getD .fresh).stage = .read := by
    rw [← fenced.scanState]
    exact stage
  have known : ∀ nodeId, SeenAt state.1.store.items source.id generation nodeId ↔
      ∃ record, forest.Reaches record ∧ record.nodeId = nodeId := by
    intro nodeId
    rw [← current]
    constructor
    · rintro ⟨item, itemStored, seen⟩
      obtain ⟨record, reaches, node, _⟩ := scanning.reached nodeId item itemStored seen
      exact ⟨record, reaches, node⟩
    · rintro ⟨record, reaches, rfl⟩
      obtain ⟨item, itemStored, seen, _⟩ := scanning.complete closed reaches
      exact ⟨item, itemStored, seen⟩
  have unchanged : SameSeen source.id state.1.store.items state'.1.store.items := by
    rw [items]
    exact sameSeen_swept _ _
  refine ⟨⟨fun nodeId => unchanged.seenAt.trans (known nodeId), ?_, ?_⟩, ⟨source, stored, current⟩,
    known⟩
  · intro record reaches document
    obtain ⟨item, itemStored, seen, kind⟩ := scanning.complete closed reaches
    refine ⟨swept job.claim source item, ?_, ?_⟩
    · rw [items, Table.get?_update, itemStored]
      rfl
    have read : item.readGeneration = source.generation := by
      by_contra waiting
      have chosen : item ∈ state.1.store.items.select (unread source) := by
        obtain ⟨mem, key⟩ := Table.get?_eq_some.1 itemStored
        have sourceNamed : item.sourceId = source.id := congrArg Prod.fst key
        refine Table.mem_select.2 ⟨mem, ?_⟩
        simp [unread, sourceNamed, seen, waiting, kind, document]
      rw [idle] at chosen
      cases chosen
    rw [← current, ← read]
    unfold swept
    split <;> rfl
  · intro item' mem own unseen
    rw [items] at mem
    obtain ⟨item, former, rfl⟩ := Table.mem_update.1 mem
    have columns : (swept job.claim source item).key = item.key
        ∧ (swept job.claim source item).seenGeneration = item.seenGeneration := by
      unfold swept
      split <;> exact ⟨rfl, rfl⟩
    have sourceNamed : item.sourceId = source.id := (congrArg Prod.fst columns.1).symm.trans own
    have itemStored : state.1.store.items.get? (source.id, item.nodeId) = some item :=
      Table.get?_eq_some.2 ⟨former, Prod.ext sourceNamed rfl⟩
    have organization := (scanned.seen item.nodeId item itemStored).2
    rw [columns.2] at unseen
    have stale : item.seenGeneration ≠ job.claim.generation := by
      rw [claimed]
      exact unseen
    rw [swept, if_pos ⟨sourceNamed, organization, stale⟩]
    exact ⟨rfl, rfl⟩

def Action.worker? : Action → Option Uuid
  | .prepare token _ _ _ | .answer token _ | .accept token _ _ _ | .interrupt token
  | .fail token _ | .crash token => some token
  | _ => none

/-- The source does not have the lease and the generation of the claim when a transaction
begins, or does not have them any more when it ends. -/
def Stale (before after : Time) (claim : Claim) (sources : Sources) : Prop :=
  ∀ source, sources.get? claim.sourceId = some source →
    held before claim source = false ∨ held after claim source = false

lemma stale_unchanged {token : Uuid} (worker : action.worker? = some token)
    (running : world.jobs.get? token = some job)
    (stale : Stale world.now world'.now job.claim world.store.sources)
    (run : perform world action = some world') :
    world'.store.sources = world.store.sources ∧ world'.store.items = world.store.items := by
  cases action with
  | prepare drawn checks preferred elapsed =>
    cases worker
    obtain ⟨found, stored, performed⟩ := Option.bind_eq_some_iff.1 run
    rw [running] at stored
    cases stored
    split at performed
    · cases performed
      unfold prepareTick at stale ⊢
      split
      · exact ⟨rfl, rfl⟩
      next source lock =>
      rw [lock] at stale
      simp only at stale ⊢
      split
      · exact ⟨rfl, rfl⟩
      · exact ⟨rfl, rfl⟩
      · next called =>
        rw [called] at stale
        simp only at stale
        split
        · exact ⟨rfl, rfl⟩
        · exact ⟨rfl, rfl⟩
        · next store committed =>
          rw [committed] at stale
          obtain ⟨row, _, begun⟩ := locked_some lock
          obtain ⟨holder, holderRow, ended, _⟩ := checkpointSource_some committed
          rw [row] at holderRow
          cases holderRow
          rcases stale _ row with before | after
          · exact absurd begun (by simp [before])
          exact absurd ended (by simp [after])
    · cases performed
  | answer drawn result =>
    obtain ⟨found, _, performed⟩ := Option.bind_eq_some_iff.1 run
    split at performed
    · cases performed
      exact ⟨rfl, rfl⟩
    cases performed
  | accept drawn args elapsed checkpointed =>
    cases worker
    obtain ⟨found, payload, connectorId, result, named, stored, phase, outcome⟩ :=
      perform_accept run
    rw [running] at stored
    cases stored
    cases outcome with
    | kept _ store => exact ⟨congrArg Store.sources store, congrArg Store.items store⟩
    | committed store source state accepted commit wrote sources =>
      rcases stale source commit.stored with before | after
      · exact absurd commit.locked (by simp [before])
      rw [commit.now] at after
      exact absurd commit.checkpointed (by simp [after])
  | interrupt drawn =>
    obtain ⟨found, _, performed⟩ := Option.bind_eq_some_iff.1 run
    split at performed
    · cases performed
    cases performed
    exact ⟨rfl, rfl⟩
  | fail drawn elapsed =>
    cases worker
    obtain ⟨found, stored, performed⟩ := Option.bind_eq_some_iff.1 run
    rw [running] at stored
    cases stored
    split at performed
    · simp only at performed
      split at performed
      · cases performed
        exact ⟨rfl, rfl⟩
      next store failing =>
      cases performed
      obtain ⟨source, lock, ended, _⟩ := failTick_some failing
      obtain ⟨row, _, begun⟩ := locked_some lock
      rcases stale source row with before | after
      · exact absurd begun (by simp [before])
      exact absurd ended (by simp [after])
    · cases performed
  | crash drawn =>
    obtain ⟨found, _, rfl⟩ := Option.map_eq_some_iff.1 run
    exact ⟨rfl, rfl⟩
  | _ => cases worker

/-- A scan is exact when it completes, and a tick without its lease writes nothing. -/
theorem scan_exact {start state state' : World × List Issued}
    {moves : List (Move (World × List Issued) Action)} (initial : (scan forest sourceId).init start)
    (path : Path (scan forest sourceId) start moves state)
    (step : (scan forest sourceId).step state action state') :
    (∀ generation, Completes sourceId generation state.1 action state'.1 →
      Exact forest sourceId generation state'.1.store.items ∧
      (processedBy sourceId generation moves).Nodup ∧
      ∀ nodeId, nodeId ∈ processedBy sourceId generation moves ↔
        ∃ record, forest.Reaches record ∧ record.nodeId = nodeId) ∧
    ∀ token job, action.worker? = some token → state.1.jobs.get? token = some job →
      Stale state.1.now state'.1.now job.claim state.1.store.sources →
      state'.1.store.sources = state.1.store.sources ∧ state'.1.store.items = state.1.store.items := by
  have tracked := tracked_run initial path
  constructor
  · intro generation completes
    obtain ⟨exact_, ⟨source, stored, current⟩, known⟩ :=
      exact_of_completes tracked.exploring completes step.1
    subst current
    refine ⟨exact_, tracked.recorded.distinct source stored, ?_⟩
    intro nodeId
    exact (tracked.recorded.seen source stored nodeId).trans (known nodeId)
  · intro token job worker running stale
    exact stale_unchanged worker running stale step.1

end

def Forest.wholePage (forest : Forest) : Payload → OutputBody → Bool
  | .workspaces none, .discovery (.workspaces records) none => records = forest.workspaces
  | .nodes workspaceId parentId none, .discovery (.nodes workspace parent records) none =>
    workspace = workspaceId && parent = parentId && records = forest.children workspaceId parentId
  | .read _ _, .read _ => true
  | _, _ => false

def Forest.servesWhole (forest : Forest) (sourceId : Uuid) (world : World) : Action → Bool
  | .answer token result =>
    match world.jobs.get? token, result.output with
    | some ⟨claim, .calling payload _⟩, some output =>
      claim.sourceId = sourceId && forest.wholePage payload output.body
    | _, _ => false
  | _ => true

lemma Forest.answered_whole {forest : Forest} {issued : List Issued} {payload : Payload}
    (given : result.output = some output) (whole : forest.wholePage payload output.body = true) :
    Answered forest issued payload result issued := by
  generalize eq : output.body = body at whole
  unfold Forest.wholePage at whole
  split at whole
  · have listed := of_decide_eq_true whole
    subst listed
    refine .listed output _ none given eq ?_
    have serves : Serves forest issued (.workspaces none)
        (.workspaces ((forest.workspaces.drop 0).take forest.workspaces.length)) none issued :=
      .workspaces 0 _ rfl (.done (by simp))
    simpa using serves
  · next workspaceId parentId workspace parent records =>
    simp only [Bool.and_eq_true, decide_eq_true_eq] at whole
    obtain ⟨⟨rfl, rfl⟩, rfl⟩ := whole
    refine .listed output _ none given eq ?_
    have serves : Serves forest issued (.nodes workspace parent none)
        (.nodes workspace parent (((forest.children workspace parent).drop 0).take
          (forest.children workspace parent).length)) none issued :=
      .nodes 0 _ rfl (.done (by simp))
    simpa using serves
  · refine .unlisted ?_
    intro other page cursor _ _ _
    exact Option.some_ne_none _
  · cases whole

lemma Forest.upstream_whole {forest : Forest} {sourceId : Uuid} {world : World}
    {issued : List Issued} {action : Action} (serves : forest.servesWhole sourceId world action) :
    Upstream forest sourceId world issued action issued := by
  unfold Forest.servesWhole at serves
  split at serves
  · next token result =>
    split at serves
    · next claim payload connectorId output running given =>
      simp only [Bool.and_eq_true, decide_eq_true_eq] at serves
      exact .answers token result _ payload connectorId running serves.1 rfl
        (forest.answered_whole given serves.2)
    · cases serves
  · next other => exact .silent _ fun token result eq => absurd eq (other token result)

lemma scan_of_path {forest : Forest} {sourceId : Uuid} {start world : World}
    {moves : List (Move World Action)} (path : Path sync start moves world)
    (serves : moves.all fun move => forest.servesWhole sourceId move.before move.action) :
    Path (scan forest sourceId) (start, [])
      (moves.map (Move.map (fun world => (world, [])) Move.action)) (world, []) := by
  induction path with
  | nil state => exact Path.nil _
  | cons action step rest ih =>
    rw [List.all_cons, Bool.and_eq_true] at serves
    exact Path.cons action ⟨step, Forest.upstream_whole serves.1⟩ (ih serves.2)

def sampleForest : Forest where
  workspaces := [⟨"wiki", "root", "Wiki"⟩]
  children workspaceId parentId :=
    if workspaceId = "wiki" ∧ parentId = "root" then
      [⟨"wiki", "document", "Handbook", "adoc", false⟩]
    else []

def sampleCompletion : Action := .prepare (sampleId 16) (.ok (sampleId 8)) "" 0

theorem scan_exact_handbook : ∃ moves state state',
    Path (scan sampleForest sampleSource) (sampleStart, []) moves state ∧
    (scan sampleForest sampleSource).step state sampleCompletion state' ∧
    Exact sampleForest sampleSource 1 state'.1.store.items ∧
    processedBy sampleSource 1 moves = ["document"] := by
  obtain ⟨moves, world, world', job, replayed, serves, running, performed, checkpointed, claimed,
      pages⟩ :
      ∃ (moves : List (Move World Action)) (world world' : World) (job : Job),
        replay perform sampleStart (sampleScan ++ [.claim sampleSource (sampleId 16)])
          = some (moves, world) ∧
        (moves.all fun move => sampleForest.servesWhole sampleSource move.before move.action)
          = true ∧
        world.jobs.get? (sampleId 16) = some job ∧
        perform world sampleCompletion = some world' ∧
        checkpointSource world.now job.claim (.complete true) world.store
          = .ok (some world'.store) ∧
        (job.claim.sourceId = sampleSource ∧ job.claim.generation = 1) ∧
        (moves.flatMap fun move => processed sampleSource 1 move.before move.action)
          = ["document"] :=
    ⟨_, _, _, _, rfl, rfl, rfl, rfl, rfl, ⟨rfl, rfl⟩, rfl⟩
  have token : job.token = sampleId 16 := get?_token running
  have path : Path sync sampleStart moves world := Path.of_replay replayed
  have step : (scan sampleForest sampleSource).step (world, []) sampleCompletion (world', []) :=
    ⟨performed, Forest.upstream_whole rfl⟩
  have completes : Completes sampleSource 1 world sampleCompletion world' := by
    refine ⟨job, .ok (sampleId 8), "", 0, true, ?_, ?_, claimed.1, claimed.2, ?_⟩
    · rw [token, sampleCompletion]
    · rw [token]
      exact running
    · rw [Nat.cast_zero, Int.add_zero]
      exact checkpointed
  have scanned := scan_exact ⟨⟨rfl, rfl, rfl⟩, rfl⟩ (scan_of_path path serves) step
  refine ⟨_, _, _, scan_of_path path serves, step, (scanned.1 1 completes).1, ?_⟩
  rw [processedBy, List.flatMap_map]
  exact pages

end Obsion.Knowledge.Sync
