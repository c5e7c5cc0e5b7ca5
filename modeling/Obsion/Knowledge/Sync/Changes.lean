import Obsion.Knowledge.Sync.Machine

/-! # What one action can do

`Change` says once what an action does to the rows; `jobs_cases` says what it does to
the ticks.  A transaction of a worker that writes anything found its lease on the
source when it locked it and again when it checkpointed. -/

namespace Obsion.Knowledge.Sync

open Obsion.Lib

def Rewrites (before after : Sources) (next : KnowledgeSyncSource) : Prop :=
  ∀ id, after.get? id = if next.id = id then some next else before.get? id

lemma ok_of_mapError {ε δ α : Type} {f : ε → δ} {computation : Except ε α} {value : α}
    (run : computation.mapError f = .ok value) : computation = .ok value := by
  cases computation with
  | error error => cases run
  | ok found =>
    cases run
    rfl

section
variable {now later : Time} {claim : Claim} {store after : Store} {source : KnowledgeSyncSource}

lemma rewrites_put (sources : Sources) (next : KnowledgeSyncSource) :
    Rewrites sources (sources.put next) next := Table.get?_put

variable {sources : Sources} {payload : Payload} {asked : Uuid}

lemma rewrites_twice {first second : KnowledgeSyncSource} (eq : first.id = second.id) :
    Rewrites sources ((sources.put first).put second) second := by
  intro id
  rw [Table.get?_put, Table.get?_put, eq]
  split <;> rfl

lemma locked_some (run : locked now claim store.sources = some source) :
    store.sources.get? claim.sourceId = some source
      ∧ source.organizationId = claim.organizationId ∧ held now claim source = true := by
  obtain ⟨found, holds⟩ := Option.filter_eq_some_iff.1 run
  rw [Bool.and_eq_true, decide_eq_true_eq] at holds
  exact ⟨found, holds.1, holds.2⟩

lemma get?_id {id : Uuid} (found : sources.get? id = some source) :
    source.id = id := (Table.get?_eq_some.1 found).2

lemma held_iff : held now claim source = true ↔
    source.active = true ∧ source.generation = claim.generation ∧
      ∃ lease, source.lease = some lease ∧ lease.token = claim.token ∧ now < lease.expiresAt := by
  rw [held]
  cases source.lease with
  | none => simp
  | some lease => simp [and_assoc]

lemma released_id (checkpoint : Checkpoint) :
    (released now claim source checkpoint).id = source.id := by
  cases checkpoint <;> rfl

lemma checkpointSource_some {checkpoint : Checkpoint}
    (run : checkpointSource now claim checkpoint store = .ok (some after)) :
    ∃ source, store.sources.get? claim.sourceId = some source ∧ held now claim source = true ∧
      after.sources = store.sources.put (released now claim source checkpoint) ∧
      after.items = (match checkpoint with
        | .unit _ => store.items
        | .complete _ => store.items.update (swept claim source) (key_swept claim source)) ∧
      checkpoint ≠ .complete false := by
  unfold checkpointSource at run
  split at run
  · cases run
  next enumerated =>
  split at run
  · cases run
  next source found =>
  obtain ⟨stored, holds⟩ := Option.filter_eq_some_iff.1 found
  refine ⟨source, stored, holds, ?_⟩
  cases checkpoint with
  | unit | complete =>
    cases run
    exact ⟨rfl, rfl, enumerated⟩

lemma failTick_some {failure : Failure} (run : failTick now later claim failure store = some after) :
    ∃ source, locked now claim store.sources = some source ∧ held later claim source = true ∧
      Rewrites store.sources after.sources
        { released later claim source (.unit (retryState claim failure)) with
          nextPollAt := later + retryAfter (retryState claim failure)
          lastErrorCode := some (safeCode failure.code) } ∧
      after.items = failedItems source failure store.items := by
  obtain ⟨source, found, run⟩ := Option.bind_eq_some_iff.1 run
  simp only at run
  split at run
  · cases run
  · cases run
  · next checkpointed committed =>
    obtain ⟨next, nextFound, eq⟩ := Option.map_eq_some_iff.1 run
    obtain ⟨holder, stored, holds, sources, items, _⟩ := checkpointSource_some committed
    have sameSource : holder = source :=
      Option.some.inj (stored.symm.trans (locked_some found).1)
    subst sameSource
    have named := get?_id stored
    have nextEq : next = released later claim holder (.unit (retryState claim failure)) := by
      rw [sources, Table.get?_put, if_pos ((released_id _).trans named)] at nextFound
      exact (Option.some.inj nextFound).symm
    cases eq
    subst nextEq
    refine ⟨holder, found, holds, ?_, items⟩
    rw [sources]
    exact rewrites_twice rfl

variable {result : GatewayResult} {args : AcceptArgs}

lemma acceptTick_some {start : Time}
    (run : acceptTick start now later claim payload result asked args store = .ok (some after)) :
    ∃ source state accepted, locked start claim store.sources = some source ∧
      acceptResult now claim payload result asked args source store = .ok (state, accepted) ∧
      held later claim source = true ∧
      (accepted.sources = store.sources → Rewrites store.sources after.sources
        (released later claim { source with lastErrorCode := none }
          (.unit { state with failures := none }))) ∧ after.items = accepted.items := by
  unfold acceptTick at run
  split at run
  · cases run
  next source found =>
  obtain ⟨⟨state, accepted⟩, answered, run⟩ := of_bind_ok run
  obtain ⟨holder, stored, holds, sources, items, _⟩ :=
    checkpointSource_some (ok_of_mapError run)
  have named := get?_id (locked_some found).1
  have holderEq : holder = { source with lastErrorCode := none } := by
    rw [Table.get?_put, if_pos named] at stored
    exact (Option.some.inj stored).symm
  subst holderEq
  refine ⟨source, state, accepted, found, answered, holds, ?_, items⟩
  intro kept
  rw [sources, kept]
  exact rewrites_twice rfl

/-- A complete read, and the document it was ingested into. -/
structure CompleteRead (args : AcceptArgs) (result : GatewayResult) (source : KnowledgeSyncSource)
    (documents : Tables) (read : ReadOutput) (observedAt : Time) (documentId : Uuid) : Prop where
  complete : read.complete = true
  gapFree : read.gaps = []
  observed : read.observedAt = some observedAt
  reader : ∃ output, result.output = some output ∧ output.body = .read read
    ∧ output.readerUserId = source.userId.str
  ingested : ∃ admission body tables document version count,
    ingest args.codecs (ingestCall args admission result source read body) documents
        = .ok (tables, document, version, count)
      ∧ admission.principal.id = source.userId ∧ document.id = documentId

inductive ReadItem (args : AcceptArgs) (result : GatewayResult) (source : KnowledgeSyncSource)
    (documents : Tables) (read : ReadOutput) (former : KnowledgeSyncItem) :
    KnowledgeSyncItem → Prop
  | partial_ (observedAt : Time) : ReadItem args result source documents read former
      { observed source read observedAt former with status := .partial_ }
  | complete (observedAt : Time) (documentId : Uuid)
      (read_ : CompleteRead args result source documents read observedAt documentId) :
      ReadItem args result source documents read former
        (leased observedAt documentId (observed source read observedAt former))

lemma acceptRead_ok {admission : Admission} {output : Output} {read : ReadOutput}
    (given : result.output = some output) (body : output.body = .read read)
    (run : acceptRead now args admission result output read source store = .ok after) :
    after.sources = store.sources ∧ ∃ item, after.items = store.items.put item ∧
      ReadItem args result source store.documents read
        ((store.items.get? (source.id, read.nodeId)).getD
          (blankItem source read.nodeId read.workspaceId "adoc" read.title)) item := by
  unfold acceptRead at run
  split at run
  · cases run
  next owned =>
  simp only [not_or, Decidable.not_not] at owned
  split at run
  · cases run
  next governed =>
  simp only [not_or, Bool.not_eq_false] at governed
  obtain ⟨observedAt, checked, run⟩ := of_bind_ok run
  have reader : output.readerUserId = source.userId.str := by
    have last := governed.1
    rw [Output.governed, Bool.and_eq_true, decide_eq_true_eq] at last
    exact last.2
  have instant : read.observedAt = some observedAt := by
    have accepted := ok_of_mapError checked
    unfold acceptable at accepted
    split at accepted
    · cases accepted
    split at accepted
    · cases accepted
    next found =>
    split at accepted
    · cases accepted
      exact found
    cases accepted
  simp only at run
  split at run
  · next full =>
    obtain ⟨⟨item, documents⟩, published, run⟩ := of_bind_ok run
    cases run
    refine ⟨rfl, item, rfl, ?_⟩
    rw [readable, Bool.and_eq_true, List.isEmpty_iff] at full
    unfold publishRead at published
    split at published
    · cases published
    next text _ =>
    obtain ⟨⟨tables, document, version, count⟩, kept, published⟩ :=
      of_bind_ok published
    cases published
    exact .complete observedAt document.id
      ⟨full.1, full.2, instant, ⟨output, given, body, reader⟩, admission, text, documents,
        document, version, count, ok_of_mapError kept, owned.1.symm, rfl⟩
  · cases run
    exact ⟨rfl, _, rfl, .partial_ observedAt⟩

/-- What an accepted result makes of the scan and of the items. -/
inductive Accepted (args : AcceptArgs) (result : GatewayResult) (claim : Claim)
    (source : KnowledgeSyncSource) (store : Store) : Payload → ScanState → Items → Prop
  | read {workspaceId nodeId : String} (output : Output) (read : ReadOutput)
      (given : result.output = some output) (body : output.body = .read read)
      (node : read.nodeId = nodeId) (workspace : read.workspaceId = workspaceId)
      {item : KnowledgeSyncItem}
      (wrote : ReadItem args result source store.documents read
        ((store.items.get? (source.id, nodeId)).getD
          (blankItem source nodeId workspaceId "adoc" read.title)) item) :
      Accepted args result claim source store (.read workspaceId nodeId) claim.state
        (store.items.put item)
  | page {payload : Payload} {state : ScanState} {items : Items} (output : Output) (page : Page)
      (cursor : Option String) (given : result.output = some output)
      (body : output.body = .discovery page cursor)
      (run : acceptPage source claim.state store.items page cursor payload = .ok (state, items)) :
      Accepted args result claim source store payload state items

lemma acceptResult_ok {state : ScanState}
    (run : acceptResult now claim payload result asked args source store = .ok (state, after)) :
    after.sources = store.sources ∧
      Accepted args result claim source store payload state after.items := by
  unfold acceptResult at run
  split at run
  · next workspaceId nodeId output given =>
    split at run
    · next read body =>
      split at run
      · next asked =>
        obtain ⟨admission, _, run⟩ := of_bind_ok run
        obtain ⟨accepted, kept, run⟩ := of_bind_ok run
        cases run
        obtain ⟨sources, item, items, wrote⟩ := acceptRead_ok given body kept
        obtain ⟨rfl, rfl⟩ := asked
        refine ⟨sources, ?_⟩
        rw [items]
        exact .read output read given body rfl rfl wrote
      · cases run
    · cases run
  · cases run
  · next output _ _ =>
    obtain ⟨_, _, run⟩ := of_bind_ok run
    split at run
    · next found =>
      obtain ⟨given, _⟩ := Option.filter_eq_some_iff.1 found
      obtain ⟨⟨scan, items⟩, listed, run⟩ := of_bind_ok run
      cases run
      exact ⟨rfl, .page _ _ _ given rfl (ok_of_mapError listed)⟩
    · cases run

end

/-! ## Inversion -/

/-- A transaction of a tick committed at some time, and its tick ended. -/
structure Committed (world : World) (job : Job) (source : KnowledgeSyncSource) (later : Time)
    (world' : World) : Prop where
  running : world.jobs.get? job.token = some job
  stored : world.store.sources.get? job.claim.sourceId = some source
  organization : source.organizationId = job.claim.organizationId
  locked : held world.now job.claim source = true
  checkpointed : held later job.claim source = true
  finished : world'.jobs = (world.endJob job.token).jobs
  elapsed : world.now ≤ later
  now : world'.now = later

inductive Change (world : World) (action : Action) (world' : World) : Prop
  | kept (sources : world'.store.sources = world.store.sources)
      (items : world'.store.items = world.store.items)
  | registered (id : Uuid) (principal : Principal) (bindingId : Uuid) (corpId : String)
      (fresh : world.store.sources.get? id = none)
      (sources : Rewrites world.store.sources world'.store.sources
        (registered world.now id principal bindingId corpId))
      (items : world'.store.items = world.store.items)
  | claimed (token : Uuid) (source : KnowledgeSyncSource) (byClaim : action = .claim source.id token)
      (unused : unusedToken world token = true)
      (stored : world.store.sources.get? source.id = some source)
      (due : claimable world.now source = true)
      (sources : Rewrites world.store.sources world'.store.sources (claimed world.now token source))
      (items : world'.store.items = world.store.items)
  | completed (job : Job) (source : KnowledgeSyncSource) (later : Time)
      (committed : Committed world job source later world') (phase : job.phase = .claimed)
      (byPrepare : ∃ checks preferred elapsed,
        action = .prepare job.token checks preferred elapsed ∧ later = world.now + (elapsed : Nat))
      (stage : job.claim.state.stage = .read)
      (noneWaiting : world.store.items.select (unread source) = [])
      (enumerated : job.claim.state.enumerationComplete = true)
      (sources : Rewrites world.store.sources world'.store.sources
        (released later job.claim source (.complete true)))
      (items : world'.store.items
        = world.store.items.update (swept job.claim source) (key_swept job.claim source))
      (checkpointed : checkpointSource later job.claim (.complete true) world.store
        = .ok (some world'.store))
  | accepted (job : Job) (source : KnowledgeSyncSource) (later : Time) (payload : Payload)
      (connectorId : Uuid) (result : GatewayResult) (args : AcceptArgs) (state : ScanState)
      (committed : Committed world job source later world')
      (phase : job.phase = .returned payload connectorId result)
      (byAccept : ∃ elapsed checkpointed, action = .accept job.token args elapsed checkpointed)
      (wrote : Accepted args result job.claim source world.store payload state world'.store.items)
      (sources : Rewrites world.store.sources world'.store.sources
        (released later job.claim { source with lastErrorCode := none }
          (.unit { state with failures := none })))
  | failed (job : Job) (source : KnowledgeSyncSource) (later : Time) (failure : Failure)
      (committed : Committed world job source later world') (phase : job.phase = .failing failure)
      (sources : Rewrites world.store.sources world'.store.sources
        { released later job.claim source (.unit (retryState job.claim failure)) with
          nextPollAt := later + retryAfter (retryState job.claim failure)
          lastErrorCode := some (safeCode failure.code) })
      (items : world'.store.items = failedItems source failure world.store.items)
  | disabled (source : KnowledgeSyncSource)
      (stored : world.store.sources.get? source.id = some source)
      (sources : Rewrites world.store.sources world'.store.sources
        { source with active := false, lease := none })
      (items : world'.store.items = world.store.items)
  | scheduled (source : KnowledgeSyncSource)
      (stored : world.store.sources.get? source.id = some source)
      (sources : Rewrites world.store.sources world'.store.sources (scheduled world.now source))
      (items : world'.store.items = world.store.items ∨ world'.store.items
        = world.store.items.update (suspended source) (key_suspended source))
  | demanded (current : Principal) (stale : List Uuid)
      (sources : world'.store.sources = world.store.sources.update
        (demanded world.now current stale) (id_demanded world.now current stale))
      (items : world'.store.items = world.store.items)

section
variable {world world' : World} {job : Job}

variable {token sourceId : Uuid} {preferred : String} {principal : Principal} {elapsed : Nat}
  {action : Action} {job' : Job}

lemma Committed.row {source : KnowledgeSyncSource} {later : Time}
    (committed : Committed world job source later world') :
    world.store.sources.get? source.id = some source :=
  Table.get?_eq_some.2 ⟨(Table.get?_eq_some.1 committed.stored).1, rfl⟩

lemma get?_token {jobs : Table Job.token} (found : jobs.get? token = some job) :
    job.token = token := (Table.get?_eq_some.1 found).2

lemma le_later (world : World) (elapsed : Nat) : world.now ≤ world.now + elapsed :=
  Int.le_add_of_nonneg_right (Int.natCast_nonneg elapsed)

variable {state : ScanState} {items : Items} {checks : Except ObsionError Unit}

lemma nextCall_complete {source : KnowledgeSyncSource} {enumerationComplete : Bool}
    (run : nextCall state source items preferred = .ok (.complete enumerationComplete)) :
    state.stage = .read ∧ items.select (unread source) = []
      ∧ state.enumerationComplete = enumerationComplete := by
  unfold nextCall at run
  split at run
  · next stage =>
    simp only at run
    split at run
    · next idle =>
      cases run
      rw [Option.or_eq_none_iff, List.head?_eq_none_iff] at idle
      exact ⟨stage, idle.2, rfl⟩
    · cases run
  · cases run
  · split at run <;> cases run

lemma nextCall_call {source : KnowledgeSyncSource} {payload : Payload}
    (run : nextCall state source items preferred = .ok (.call payload)) :
    (state.stage = .read ∧ ∃ item ∈ items.select (unread source),
        payload = .read item.workspaceId item.nodeId)
      ∨ (state.stage = .workspaces ∧ payload = .workspaces state.cursor)
      ∨ (state.stage = .nodes ∧ ∃ parent rest, state.queue = parent :: rest
        ∧ payload = .nodes parent.workspaceId parent.parentId parent.cursor) := by
  unfold nextCall at run
  split at run
  · next stage =>
    simp only at run
    split at run
    · cases run
    next item chosen =>
    cases run
    refine .inl ⟨stage, item, ?_, rfl⟩
    rcases Option.or_eq_some_iff.1 chosen with found | ⟨_, found⟩
    · exact List.mem_of_find?_eq_some found
    exact List.mem_of_head? found
  · next stage =>
    cases run
    exact .inr (Or.inl ⟨stage, rfl⟩)
  · next stage =>
    split at run
    · cases run
    next parent rest queue =>
    cases run
    exact .inr (Or.inr ⟨stage, parent, rest, queue, rfl⟩)

lemma ownSource_ok {sources : Sources} {source : KnowledgeSyncSource}
    (run : ownSource principal sourceId sources = .ok source) :
    sources.get? source.id = some source := by
  unfold ownSource at run
  split at run
  · cases run
  next found =>
  cases run
  have stored := (Option.filter_eq_some_iff.1 found).1
  rw [get?_id stored]
  exact stored

lemma disableSource_some {store after : Store}
    (run : (disableSource principal sourceId checks store).toOption = some after) :
    ∃ source, store.sources.get? source.id = some source ∧
      after.sources = store.sources.put { source with active := false, lease := none } ∧
      after.items = store.items := by
  obtain ⟨source, own, answer⟩ := of_bind_ok (ok_of_toOption run)
  obtain ⟨_, _, answer⟩ := of_bind_ok answer
  cases answer
  exact ⟨source, ownSource_ok own, rfl, rfl⟩

lemma scheduleSource_some {now : Time} {resume : Bool} {store after : Store}
    (run : (scheduleSource now principal sourceId resume checks store).toOption = some after) :
    ∃ source, store.sources.get? source.id = some source ∧
      after.sources = store.sources.put (scheduled now source) ∧ (after.items = store.items
        ∨ after.items = store.items.update (suspended source) (key_suspended source)) := by
  obtain ⟨source, own, answer⟩ := of_bind_ok (ok_of_toOption run)
  obtain ⟨_, _, answer⟩ := of_bind_ok answer
  split at answer
  · cases answer
  cases answer
  refine ⟨source, ownSource_ok own, rfl, ?_⟩
  simp only
  split
  · exact .inl rfl
  exact .inr rfl

lemma prepareTick_change {checks : Except ObsionError Uuid}
    (found : world.jobs.get? job.token = some job) (phase : job.phase = .claimed)
    (run : prepareTick world job checks preferred elapsed = world') :
    Change world (.prepare job.token checks preferred elapsed) world' := by
  unfold prepareTick at run
  split at run
  · subst run
    exact .kept rfl rfl
  next source lock =>
  obtain ⟨stored, organization, locked⟩ := locked_some lock
  simp only at run
  split at run
  · subst run
    exact .kept rfl rfl
  · subst run
    exact .kept rfl rfl
  · next connectorId enumerationComplete called =>
    obtain ⟨_, _, called⟩ := of_bind_ok called
    obtain ⟨prepared, next, called⟩ := of_bind_ok called
    cases called
    obtain ⟨stage, idle, enumerated⟩ := nextCall_complete next
    split at run
    · subst run
      exact .kept rfl rfl
    · subst run
      exact .kept rfl rfl
    · next store committed =>
      subst run
      obtain ⟨holder, holderStored, holds, sources, items, partial_⟩ :=
        checkpointSource_some committed
      have eq : holder = source := Option.some.inj (holderStored.symm.trans stored)
      subst eq
      have full : enumerationComplete = true := by
        cases enumerationComplete with
        | false => exact absurd rfl partial_
        | true => rfl
      subst full
      refine .completed job holder (world.now + elapsed)
        ⟨found, stored, organization, locked, holds, rfl, le_later world elapsed, rfl⟩ phase
        ⟨checks, preferred, elapsed, rfl, rfl⟩ stage idle enumerated ?_ items committed
      simp only [sources]
      exact rewrites_put _ _

/-- An accepting transaction wrote nothing, or it committed. -/
inductive AcceptOutcome (world : World) (job : Job) (payload : Payload) (result : GatewayResult)
    (args : AcceptArgs) (later : Time) (answer : Except Fault (Option Store)) (world' : World) : Prop
  | kept (refused : ∀ store, answer ≠ .ok (some store)) (store : world'.store = world.store)
  | committed (store : Store) (source : KnowledgeSyncSource) (state : ScanState)
      (accepted : answer = .ok (some store)) (commit : Committed world job source later world')
      (wrote : Accepted args result job.claim source world.store payload state world'.store.items)
      (sources : Rewrites world.store.sources world'.store.sources
        (released later job.claim { source with lastErrorCode := none }
          (.unit { state with failures := none })))

lemma perform_accept {args : AcceptArgs} {checkpointed : Nat}
    (run : perform world (.accept token args elapsed checkpointed) = some world') :
    ∃ job payload connectorId result, job.token = token ∧ world.jobs.get? token = some job ∧
      job.phase = .returned payload connectorId result ∧
      AcceptOutcome world job payload result args (world.now + elapsed + checkpointed)
        (acceptTick world.now (world.now + elapsed) (world.now + elapsed + checkpointed) job.claim
          payload result connectorId args world.store) world' := by
  obtain ⟨job, found, performed⟩ := Option.bind_eq_some_iff.1 run
  have named := get?_token found
  subst named
  simp only at performed
  split at performed
  · next payload connectorId result phase =>
    refine ⟨job, payload, connectorId, result, rfl, found, phase, ?_⟩
    split at performed
    · next error refused =>
      cases performed
      exact .kept (fun store eq => by rw [refused] at eq; cases eq) rfl
    · next refused =>
      cases performed
      exact .kept (fun store eq => by rw [refused] at eq; cases eq) rfl
    · next refused =>
      cases performed
      exact .kept (fun store eq => by rw [refused] at eq; cases eq) rfl
    · next store accepted =>
      cases performed
      obtain ⟨source, state, written, lock, answered, holds, sources, items⟩ :=
        acceptTick_some accepted
      obtain ⟨stored, organization, locked⟩ := locked_some lock
      obtain ⟨kept, wrote⟩ := acceptResult_ok answered
      rw [← items] at wrote
      exact .committed store source state accepted ⟨found, stored, organization, locked, holds, rfl,
          (le_later world elapsed).trans (Int.le_add_of_nonneg_right
            (Int.natCast_nonneg checkpointed)), rfl⟩
        wrote (sources kept)
  · cases performed

lemma perform_change (run : perform world action = some world') : Change world action world' := by
  cases action with
  | elapse duration =>
    cases run
    exact .kept rfl rfl
  | ingest codecs call =>
    obtain ⟨result, _, rfl⟩ := Option.map_eq_some_iff.1 run
    exact .kept rfl rfl
  | register id principal bindingId corpId =>
    obtain ⟨sources, inserted, rfl⟩ := Option.map_eq_some_iff.1 run
    refine .registered id principal bindingId corpId ?_ (Table.get?_insert? inserted) rfl
    exact Table.get?_eq_none.2 (Table.insert?_spec inserted).1
  | claim sourceId token =>
    simp only [perform] at run
    split at run
    · next unused =>
      obtain ⟨found, claiming, rfl⟩ := Option.map_eq_some_iff.1 run
      obtain ⟨source, stored, claiming⟩ := Option.bind_eq_some_iff.1 claiming
      split at claiming
      · next due =>
        cases claiming
        have named := get?_id stored
        subst named
        exact .claimed token source rfl unused stored due (rewrites_put _ _) rfl
      · cases claiming
    · cases run
  | prepare token checks preferred elapsed =>
    obtain ⟨job, found, performed⟩ := Option.bind_eq_some_iff.1 run
    have named := get?_token found
    subst named
    split at performed
    · next phase =>
      cases performed
      exact prepareTick_change found phase rfl
    · cases performed
  | answer token result =>
    obtain ⟨job, found, run⟩ := Option.bind_eq_some_iff.1 run
    split at run
    · cases run
      exact .kept rfl rfl
    cases run
  | accept token args elapsed checkpointed =>
    obtain ⟨job, payload, connectorId, result, named, _, phase, outcome⟩ := perform_accept run
    subst named
    cases outcome with
    | kept _ store =>
      exact .kept (congrArg Store.sources store) (congrArg Store.items store)
    | committed _ source state _ commit wrote sources =>
      exact .accepted job source _ payload connectorId result args state commit phase
        ⟨elapsed, checkpointed, rfl⟩ wrote sources
  | interrupt token =>
    obtain ⟨job, found, run⟩ := Option.bind_eq_some_iff.1 run
    split at run
    · cases run
    cases run
    exact .kept rfl rfl
  | fail token elapsed =>
    obtain ⟨job, found, performed⟩ := Option.bind_eq_some_iff.1 run
    have named := get?_token found
    subst named
    simp only at performed
    split at performed
    · next failure phase =>
      split at performed
      · cases performed
        exact .kept rfl rfl
      next store failing =>
      cases performed
      obtain ⟨source, lock, holds, sources, items⟩ := failTick_some failing
      obtain ⟨stored, organization, locked⟩ := locked_some lock
      exact .failed job source _ failure
        ⟨found, stored, organization, locked, holds, rfl, le_later world elapsed, rfl⟩
        phase sources items
    · cases performed
  | crash token =>
    obtain ⟨job, _, rfl⟩ := Option.map_eq_some_iff.1 run
    exact .kept rfl rfl
  | disable principal sourceId checks =>
    obtain ⟨store, disabling, rfl⟩ := Option.map_eq_some_iff.1 run
    obtain ⟨source, stored, sources, items⟩ := disableSource_some disabling
    refine .disabled source stored ?_ items
    rw [sources]
    exact rewrites_put _ _
  | schedule principal sourceId resume checks =>
    obtain ⟨store, scheduling, rfl⟩ := Option.map_eq_some_iff.1 run
    obtain ⟨source, stored, sources, items⟩ := scheduleSource_some scheduling
    refine .scheduled source stored ?_ items
    rw [sources]
    exact rewrites_put _ _
  | await current requestedAt known expired =>
    simp only [perform] at run
    split at run
    · next lastFailure sources waiting =>
      cases run
      unfold awaitRound at waiting
      simp only at waiting
      repeat' split at waiting
      all_goals cases waiting
      exact .demanded current _ rfl rfl
    · cases run
      exact .kept rfl rfl

inductive JobChange (world : World) (action : Action) (token : Uuid) (job' : Job) : Prop
  | kept (found : world.jobs.get? token = some job')
  | claimed (source : KnowledgeSyncSource) (byClaim : action = .claim source.id token)
      (unused : unusedToken world token = true)
      (stored : world.store.sources.get? source.id = some source)
      (same : job' = ⟨claimOf token (claimed world.now token source), .claimed⟩)
  | prepared (job : Job) (found : world.jobs.get? token = some job)
      (phase : job.phase = .claimed) (source : KnowledgeSyncSource)
      (stored : world.store.sources.get? job.claim.sourceId = some source)
      (locked : held world.now job.claim source = true) (payload : Payload) (connectorId : Uuid)
      (preferred : String)
      (next : nextCall job.claim.state source world.store.items preferred = .ok (.call payload))
      (same : job' = { job with phase := .calling payload connectorId })
  | answered (job : Job) (found : world.jobs.get? token = some job) (payload : Payload)
      (connectorId : Uuid) (phase : job.phase = .calling payload connectorId)
      (result : GatewayResult) (byAnswer : action = .answer token result)
      (completed : result.status = .completed)
      (same : job' = { job with phase := .returned payload connectorId result })
  | failing (job : Job) (found : world.jobs.get? token = some job) (failure : Failure)
      (node : failure.nodeId = job.phase.nodeId?)
      (same : job' = { job with phase := .failing failure })

lemma get?_endJob {other : Uuid} (found : (world.endJob token).jobs.get? other = some job') :
    world.jobs.get? other = some job' ∧ other ≠ token := by
  rw [World.endJob, Table.get?_delete] at found
  obtain ⟨stored, spared⟩ := Option.filter_eq_some_iff.1 found
  refine ⟨stored, ?_⟩
  rw [← get?_token stored]
  simpa using spared

lemma get?_moveJob {phase : Phase} (running : world.jobs.get? job.token = some job)
    (found : (world.moveJob job phase).jobs.get? token = some job') :
    world.jobs.get? token = some job'
      ∨ (world.jobs.get? token = some job ∧ job' = { job with phase }) := by
  rw [World.moveJob, Table.get?_put] at found
  split at found
  · next eq =>
    cases found
    have named : job.token = token := eq
    rw [named] at running
    exact .inr ⟨running, rfl⟩
  · exact .inl found

lemma prepareTick_job {checks : Except ObsionError Uuid}
    (running : world.jobs.get? job.token = some job) (phase : job.phase = .claimed)
    (found : (prepareTick world job checks preferred elapsed).jobs.get? token = some job') :
    JobChange world action token job' := by
  have node : none = job.phase.nodeId? := by
    rw [phase]
    rfl
  unfold prepareTick at found
  split at found
  · exact .kept (get?_endJob found).1
  next source lock =>
  obtain ⟨stored, _, locked⟩ := locked_some lock
  simp only at found
  split at found
  · rcases get?_moveJob running found with kept | ⟨former, eq⟩
    · exact .kept kept
    exact .failing job former _ node eq
  · next connectorId payload called =>
    obtain ⟨_, _, called⟩ := of_bind_ok called
    obtain ⟨prepared, next, called⟩ := of_bind_ok called
    cases called
    rcases get?_moveJob running found with kept | ⟨former, eq⟩
    · exact .kept kept
    exact .prepared job former phase source stored locked payload connectorId preferred next eq
  · split at found
    · rcases get?_moveJob running found with kept | ⟨former, eq⟩
      · exact .kept kept
      exact .failing job former _ node eq
    · exact .kept (get?_endJob found).1
    · exact .kept (get?_endJob found).1

lemma perform_jobs (run : perform world action = some world')
    (found : world'.jobs.get? token = some job') : JobChange world action token job' := by
  cases action with
  | elapse duration =>
    cases run
    exact .kept found
  | ingest codecs call =>
    obtain ⟨result, _, rfl⟩ := Option.map_eq_some_iff.1 run
    exact .kept found
  | register id principal bindingId corpId =>
    obtain ⟨sources, _, rfl⟩ := Option.map_eq_some_iff.1 run
    exact .kept found
  | claim sourceId drawn =>
    simp only [perform] at run
    split at run
    · next unused =>
      obtain ⟨claiming, claimRun, rfl⟩ := Option.map_eq_some_iff.1 run
      obtain ⟨source, stored, claimRun⟩ := Option.bind_eq_some_iff.1 claimRun
      split at claimRun
      · cases claimRun
        rw [Table.get?_put] at found
        split at found
        · next eq =>
          cases found
          have named : drawn = token := eq
          subst named
          have sourceNamed := get?_id stored
          subst sourceNamed
          exact .claimed source rfl unused stored rfl
        · exact .kept found
      · cases claimRun
    · cases run
  | prepare drawn checks preferred elapsed =>
    obtain ⟨job, running, performed⟩ := Option.bind_eq_some_iff.1 run
    have named := get?_token running
    subst named
    split at performed
    · next phase =>
      cases performed
      exact prepareTick_job running phase found
    · cases performed
  | answer drawn result =>
    obtain ⟨job, running, performed⟩ := Option.bind_eq_some_iff.1 run
    have named := get?_token running
    subst named
    split at performed
    · next payload connectorId phase =>
      cases performed
      rcases get?_moveJob running found with kept | ⟨former, eq⟩
      · exact .kept kept
      split at eq
      · next completed =>
        have sameToken : job.token = token := get?_token former
        exact .answered job former payload connectorId phase result (by rw [sameToken]) completed eq
      · exact .failing job former _ (by rw [phase]; rfl) eq
    · cases performed
  | accept drawn args elapsed checkpointed =>
    obtain ⟨job, running, performed⟩ := Option.bind_eq_some_iff.1 run
    have named := get?_token running
    subst named
    simp only at performed
    split at performed
    · next payload connectorId result phase =>
      split at performed
      · cases performed
        rcases get?_moveJob running found with kept | ⟨former, eq⟩
        · exact .kept kept
        exact .failing job former _ (by rw [phase]; rfl) eq
      all_goals
        cases performed
        exact .kept (get?_endJob found).1
    · cases performed
  | interrupt drawn =>
    obtain ⟨job, running, performed⟩ := Option.bind_eq_some_iff.1 run
    have named := get?_token running
    subst named
    split at performed
    · cases performed
    next phase _ =>
    cases performed
    rcases get?_moveJob running found with kept | ⟨former, eq⟩
    · exact .kept kept
    exact .failing job former _ rfl eq
  | fail drawn elapsed =>
    obtain ⟨job, running, performed⟩ := Option.bind_eq_some_iff.1 run
    split at performed
    · simp only at performed
      split at performed
      all_goals
        cases performed
        exact .kept (get?_endJob found).1
    · cases performed
  | crash drawn =>
    obtain ⟨job, _, rfl⟩ := Option.map_eq_some_iff.1 run
    exact .kept (get?_endJob found).1
  | disable | schedule =>
    obtain ⟨store, _, rfl⟩ := Option.map_eq_some_iff.1 run
    exact .kept found
  | await current requestedAt known expired =>
    simp only [perform] at run
    split at run
    all_goals
      cases run
      exact .kept found

end

end Obsion.Knowledge.Sync
