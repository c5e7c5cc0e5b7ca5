import Obsion.Knowledge.Sync.Traversal

/-! # Scans of a forest

One source is served by a fixed forest; everything else may happen in any order.
`Exploring` holds in every state: the persisted scan has lost nothing of the forest,
and the tick that holds the lease works on the persisted scan. -/

namespace Obsion.Knowledge.Sync

open Obsion.Lib

/-- What a call may return, and the cursors that are issued then.  A call may fail, and
its output may be anything but a page that the forest does not serve. -/
inductive Answered (forest : Forest) (issued : List Issued) (payload : Payload)
    (result : GatewayResult) : List Issued → Prop
  | unlisted (bare : ∀ output page cursor, result.status = .completed →
      result.output = some output → output.body = .discovery page cursor →
      payload.nodeId? ≠ none) :
      Answered forest issued payload result issued
  | listed (output : Output) (page : Page) (cursor : Option String) {issued' : List Issued}
      (given : result.output = some output) (body : output.body = .discovery page cursor)
      (serves : Serves forest issued payload page cursor issued') :
      Answered forest issued payload result issued'

/-- The calls of other sources are not restricted. -/
inductive Upstream (forest : Forest) (sourceId : Uuid) (world : World) (issued : List Issued) :
    Action → List Issued → Prop
  | answers (token : Uuid) (result : GatewayResult) (job : Job) (payload : Payload)
      (connectorId : Uuid) {issued' : List Issued} (running : world.jobs.get? token = some job)
      (own : job.claim.sourceId = sourceId) (phase : job.phase = .calling payload connectorId)
      (answered : Answered forest issued payload result issued') :
      Upstream forest sourceId world issued (.answer token result) issued'
  | silent (action : Action) (other : ∀ token result, action = .answer token result →
      ∀ job, world.jobs.get? token = some job → job.claim.sourceId ≠ sourceId) :
      Upstream forest sourceId world issued action issued

def scan (forest : Forest) (sourceId : Uuid) : System (World × List Issued) Action where
  init state := Blank state.1 ∧ state.2 = []
  step before action after :=
    perform before.1 action = some after.1 ∧ Upstream forest sourceId before.1 before.2 action after.2

section
variable {forest : Forest} {sourceId : Uuid} {world : World} {issued issued' : List Issued}
  {action : Action} {payload : Payload} {page : Page} {cursor : Option String}

lemma Serves.grows (serves : Serves forest issued payload page cursor issued') :
    ∀ entry ∈ issued, entry ∈ issued' := by
  cases serves with
  | workspaces _ _ _ continues | nodes _ _ _ continues => exact continues.grows

lemma Serves.once (once : IssuedOnce issued)
    (serves : Serves forest issued payload page cursor issued') : IssuedOnce issued' := by
  cases serves with
  | workspaces _ _ _ continues | nodes _ _ _ continues => exact continues.once once

lemma Upstream.grows (upstream : Upstream forest sourceId world issued action issued') :
    ∀ entry ∈ issued, entry ∈ issued' := by
  cases upstream with
  | silent other => exact fun _ mem => mem
  | answers token result job payload connectorId running own phase answered =>
    cases answered with
    | unlisted bare => exact fun _ mem => mem
    | listed output page cursor given body serves => exact serves.grows

lemma Upstream.once (once : IssuedOnce issued)
    (upstream : Upstream forest sourceId world issued action issued') : IssuedOnce issued' := by
  cases upstream with
  | silent other => exact once
  | answers token result job payload connectorId running own phase answered =>
    cases answered with
    | unlisted bare => exact once
    | listed output page cursor given body serves => exact serves.once once

end

/-! ## What the scan reads of the items -/

def seenColumns (item : KnowledgeSyncItem) : Nat × String × Uuid :=
  (item.seenGeneration, item.kind, item.organizationId)

def SameSeen (sourceId : Uuid) (items items' : Items) : Prop :=
  ∀ nodeId, (items'.get? (sourceId, nodeId)).map seenColumns
    = (items.get? (sourceId, nodeId)).map seenColumns

section
variable {sourceId : Uuid} {items items' : Items}

lemma SameSeen.refl : SameSeen sourceId items items := fun _ => rfl

lemma SameSeen.symm (eq : SameSeen sourceId items items') : SameSeen sourceId items' items :=
  fun nodeId => (eq nodeId).symm

lemma SameSeen.found (eq : SameSeen sourceId items items') {nodeId : String}
    {item : KnowledgeSyncItem} (stored : items.get? (sourceId, nodeId) = some item) :
    ∃ item', items'.get? (sourceId, nodeId) = some item' ∧ seenColumns item' = seenColumns item := by
  have columns := eq nodeId
  rw [stored, Option.map_some, Option.map_eq_some_iff] at columns
  exact columns

lemma SameSeen.of_eq (eq : items' = items) : SameSeen sourceId items items' := by
  rw [eq]
  exact .refl

/-- The columns the scan reads bound the rows after a change that keeps them. -/
lemma SameSeen.bounded (eq : SameSeen sourceId items items') {generation : Nat}
    {organizationId : Uuid}
    (seen : ∀ nodeId item, items.get? (sourceId, nodeId) = some item →
      item.seenGeneration ≤ generation ∧ item.organizationId = organizationId)
    (nodeId : String) (item : KnowledgeSyncItem)
    (stored : items'.get? (sourceId, nodeId) = some item) :
    item.seenGeneration ≤ generation ∧ item.organizationId = organizationId := by
  obtain ⟨former, found, columns⟩ := eq.symm.found stored
  simp only [seenColumns, Prod.mk.injEq] at columns
  rw [← columns.1, ← columns.2.2]
  exact seen nodeId former found

lemma SameSeen.update {change : KnowledgeSyncItem → KnowledgeSyncItem}
    {keeps : ∀ item, (change item).key = item.key}
    (columns : ∀ item, seenColumns (change item) = seenColumns item) :
    SameSeen sourceId items (items.update change keeps) := by
  intro nodeId
  rw [Table.get?_update, Option.map_map]
  exact congrArg (fun view => (items.get? (sourceId, nodeId)).map view) (funext columns)

lemma SameSeen.put {next : KnowledgeSyncItem} (columns : next.sourceId = sourceId →
      (items.get? next.key).map seenColumns = some (seenColumns next)) :
    SameSeen sourceId items (items.put next) := by
  intro nodeId
  rw [Table.get?_put]
  split
  · next eq =>
    have former := columns (congrArg Prod.fst eq)
    rw [eq] at former
    exact former.symm
  · rfl

lemma SameSeen.visitAll {source : KnowledgeSyncSource} {records : List NodeRecord}
    (other : source.id ≠ sourceId) : SameSeen sourceId items (visitAll source records items) := by
  intro nodeId
  rw [get?_visitAll_other]
  exact fun record _ eq => other (congrArg Prod.fst eq)

lemma sameSeen_swept (claim : Claim) (source : KnowledgeSyncSource) :
    SameSeen sourceId items (items.update (swept claim source) (key_swept claim source)) := by
  apply SameSeen.update
  intro item
  unfold swept
  split <;> rfl

lemma sameSeen_suspended (source : KnowledgeSyncSource) :
    SameSeen sourceId items (items.update (suspended source) (key_suspended source)) := by
  apply SameSeen.update
  intro item
  unfold suspended
  split <;> rfl

lemma sameSeen_failed (source : KnowledgeSyncSource) (failure : Failure) :
    SameSeen sourceId items (failedItems source failure items) := by
  unfold failedItems
  split
  · unfold failedRead
    split
    · exact SameSeen.refl
    next item stored =>
    apply SameSeen.put
    intro _
    have key : item.key = _ := (Table.get?_eq_some.1 stored).2
    have eq : items.get? item.key = some item := by
      rw [key]
      exact stored
    exact congrArg (Option.map seenColumns) eq
  · apply SameSeen.update
    intro item
    unfold revoked
    split <;> rfl

lemma SeenIn.transfer (eq : SameSeen sourceId items items') {generation : Nat}
    {record : NodeRecord} (seen : SeenIn items sourceId generation record) :
    SeenIn items' sourceId generation record := by
  obtain ⟨item, stored, former, kind⟩ := seen
  obtain ⟨item', found, columns⟩ := eq.found stored
  simp only [seenColumns, Prod.mk.injEq] at columns
  exact ⟨item', found, columns.1.trans former, columns.2.1.trans kind⟩

end

section
variable {forest : Forest} {issued issued' : List Issued} {sourceId : Uuid} {generation : Nat}
  {state state' : ScanState} {items items' : Items} {done : List (String × String)}

lemma Scanning.transfer (scanning : Scanning forest issued sourceId generation state items done)
    (more : ∀ entry ∈ issued, entry ∈ issued') (eq : SameSeen sourceId items items')
    (stage : state'.stage = state.stage) (cursor : state'.cursor = state.cursor)
    (queue : state'.queue = state.queue) :
    Scanning forest issued' sourceId generation state' items' done := by
  have explored : ∀ {records : List NodeRecord},
      Explored items sourceId generation state.queue done records →
      Explored items' sourceId generation state.queue done records :=
    fun former => former.mono (fun _ seen => seen.transfer eq) fun _ _ opened => opened
  constructor
  · obtain ⟨offset, resumes, closing, roots⟩ := scanning.workspaces
    rw [stage, cursor, queue]
    exact ⟨offset, fun still => (resumes still).grow more, closing, roots⟩
  · intro entry mem
    rw [queue] at mem ⊢
    obtain ⟨listing, offset, resumes, former⟩ := scanning.queued entry mem
    exact ⟨listing, offset, resumes.grow more, explored former⟩
  · intro listing mem
    rw [queue]
    exact explored (scanning.finished listing mem)
  · intro nodeId item stored seen
    obtain ⟨former, found, columns⟩ := eq.symm.found stored
    simp only [seenColumns, Prod.mk.injEq] at columns
    obtain ⟨record, reaches, named, kind⟩ :=
      scanning.reached nodeId former found (columns.1.trans seen)
    exact ⟨record, reaches, named, kind.trans columns.2.1⟩
  · rw [stage, queue]
    exact scanning.closed

lemma Scanning.start (unseen : ∀ nodeId item, items.get? (sourceId, nodeId) = some item →
    item.seenGeneration ≠ generation) :
    Scanning forest issued sourceId generation .fresh items [] := by
  constructor
  · refine ⟨0, fun _ => rfl, fun left => absurd rfl left, ?_⟩
    intro record mem
    cases mem
  · intro entry mem
    cases mem
  · intro listing mem
    cases mem
  · exact fun nodeId item stored seen => absurd seen (unseen nodeId item stored)
  · exact fun _ => rfl

end

/-! ## The invariant -/

/-- The call that is due: the next page of the scan, or the body of a node it has seen. -/
inductive Due (source : KnowledgeSyncSource) (items : Items) : Payload → Prop
  | page (payload : Payload) (requests : Requests (source.scanState.getD .fresh) payload) :
      Due source items payload
  | body (workspaceId nodeId : String) (item : KnowledgeSyncItem)
      (stored : items.get? (source.id, nodeId) = some item)
      (seen : item.seenGeneration = source.generation) :
      Due source items (.read workspaceId nodeId)

def Phase.payload? : Phase → Option Payload
  | .calling payload _ => some payload
  | .returned payload _ _ => some payload
  | _ => none

/-- A scan is in progress while its state is persisted or leased. -/
structure Scanned (forest : Forest) (issued : List Issued) (source : KnowledgeSyncSource)
    (items : Items) : Prop where
  seen : ∀ nodeId item, items.get? (source.id, nodeId) = some item →
    item.seenGeneration ≤ source.generation ∧ item.organizationId = source.organizationId
  scanning : source.scanState.isSome ∨ source.lease.isSome →
    ∃ done, Scanning forest issued source.id source.generation (source.scanState.getD .fresh)
      items done

/-- The tick that holds the lease works on the row as it is. -/
structure Fenced (forest : Forest) (issued : List Issued) (source : KnowledgeSyncSource)
    (items : Items) (job : Job) : Prop where
  generation : job.claim.generation = source.generation
  scanState : job.claim.scanState = source.scanState
  due : ∀ payload, job.phase.payload? = some payload → Due source items payload
  served : ∀ payload connectorId result, job.phase = .returned payload connectorId result →
    ∀ output page cursor, result.output = some output → output.body = .discovery page cursor →
      payload.nodeId? = none → Served forest issued payload page cursor

structure Exploring (forest : Forest) (sourceId : Uuid) (issued : List Issued) (world : World) :
    Prop where
  once : IssuedOnce issued
  unregistered : world.store.sources.get? sourceId = none →
    ∀ nodeId, world.store.items.get? (sourceId, nodeId) = none
  scanned : ∀ source, world.store.sources.get? sourceId = some source →
    Scanned forest issued source world.store.items
  fenced : ∀ source, world.store.sources.get? sourceId = some source →
    ∀ lease, source.lease = some lease → ∀ job, world.jobs.get? lease.token = some job →
      job.claim.sourceId = sourceId → Fenced forest issued source world.store.items job

section
variable {forest : Forest} {issued issued' : List Issued} {source source' : KnowledgeSyncSource}
  {items items' : Items} {job : Job}

lemma Scanned.transfer (scanned : Scanned forest issued source items)
    (more : ∀ entry ∈ issued, entry ∈ issued') (eq : SameSeen source.id items items')
    (id : source'.id = source.id) (organization : source'.organizationId = source.organizationId)
    (generation : source'.generation = source.generation)
    (still : source'.scanState.isSome ∨ source'.lease.isSome →
      source'.scanState = source.scanState ∧ (source.scanState.isSome ∨ source.lease.isSome)) :
    Scanned forest issued' source' items' := by
  constructor
  · rw [id, generation, organization]
    exact eq.bounded scanned.seen
  · intro active
    obtain ⟨scanState, former⟩ := still active
    rw [scanState, id, generation]
    obtain ⟨done, scanning⟩ := scanned.scanning former
    exact ⟨done, scanning.transfer more eq rfl rfl rfl⟩

lemma Due.transfer {payload : Payload} (due : Due source items payload)
    (eq : SameSeen source.id items items') (id : source'.id = source.id)
    (generation : source'.generation = source.generation)
    (scanState : source'.scanState = source.scanState) : Due source' items' payload := by
  cases due with
  | page payload requests =>
    rw [← scanState] at requests
    exact .page _ requests
  | body workspaceId nodeId item stored seen =>
    obtain ⟨item', found, columns⟩ := eq.found stored
    simp only [seenColumns, Prod.mk.injEq] at columns
    refine .body workspaceId nodeId item' ?_ ?_
    · rw [id]
      exact found
    rw [columns.1, seen, generation]

lemma Fenced.transfer (fenced : Fenced forest issued source items job)
    (more : ∀ entry ∈ issued, entry ∈ issued') (eq : SameSeen source.id items items')
    (id : source'.id = source.id) (generation : source'.generation = source.generation)
    (scanState : source'.scanState = source.scanState) :
    Fenced forest issued' source' items' job := by
  refine ⟨fenced.generation.trans generation.symm, fenced.scanState.trans scanState.symm, ?_, ?_⟩
  · exact fun payload asked => (fenced.due payload asked).transfer eq id generation scanState
  intro payload connectorId result phase output page cursor given body listing
  exact (fenced.served payload connectorId result phase output page cursor given body
    listing).grow more

variable {now : Time} {documents : Tables} {read : ReadOutput} {item : KnowledgeSyncItem}
  {store : Store}

lemma Scanned.registered {id : Uuid} {principal : Principal} {bindingId : Uuid} {corpId : String}
    (empty : ∀ nodeId, items.get? (id, nodeId) = none) :
    Scanned forest issued (registered now id principal bindingId corpId) items := by
  constructor
  · intro nodeId item stored
    rw [show (Sync.registered now id principal bindingId corpId).id = id from rfl, empty] at stored
    cases stored
  · rintro (persisted | leased)
    · cases persisted
    · cases leased

lemma Scanned.claimed {token : Uuid} (scanned : Scanned forest issued source items)
    (more : ∀ entry ∈ issued, entry ∈ issued') :
    Scanned forest issued' (claimed now token source) items := by
  cases persisted : source.scanState with
  | some state =>
    have generation : (Sync.claimed now token source).generation = source.generation := by
      simp [Sync.claimed, persisted]
    have active : source.scanState.isSome ∨ source.lease.isSome := Or.inl (by rw [persisted]; rfl)
    obtain ⟨done, scanning⟩ := scanned.scanning active
    constructor
    · rw [generation]
      exact scanned.seen
    intro _
    rw [generation]
    exact ⟨done, scanning.transfer more SameSeen.refl rfl rfl rfl⟩
  | none =>
    have generation : (Sync.claimed now token source).generation = source.generation + 1 := by
      simp [Sync.claimed, persisted]
    have fresh : (Sync.claimed now token source).scanState.getD .fresh = .fresh := by
      rw [show (Sync.claimed now token source).scanState = source.scanState from rfl, persisted]
      rfl
    have older : ∀ nodeId item, items.get? (source.id, nodeId) = some item →
        item.seenGeneration < source.generation + 1 :=
      fun nodeId item stored => Nat.lt_succ_of_le (scanned.seen nodeId item stored).1
    constructor
    · rw [generation]
      exact fun nodeId item stored =>
        ⟨(older nodeId item stored).le, (scanned.seen nodeId item stored).2⟩
    · intro _
      rw [generation, fresh]
      exact ⟨[], Scanning.start fun nodeId item stored => (older nodeId item stored).ne⟩

lemma Scanning.paged {state state' : ScanState} {done : List (String × String)}
    (once : IssuedOnce issued)
    (scanning : Scanning forest issued source.id source.generation state items done)
    {payload : Payload} {page : Page} {cursor : Option String} (requests : Requests state payload)
    (served : Served forest issued payload page cursor)
    (paged : Paged source state items cursor page payload state' items') :
    ∃ done', Scanning forest issued source.id source.generation state' items' done' := by
  cases paged with
  | workspaces records former stage advances new =>
    cases served with
    | workspaces offset size resumes next =>
      cases requests with
      | workspaces stage => exact ⟨done, scanning.pagedWorkspaces once stage resumes next⟩
  | nodes workspaceId parentId records former active rest stage queue advances new =>
    cases served with
    | nodes offset size resumes next =>
      cases requests with
      | nodes parent others _ queue' =>
        rw [queue] at queue'
        cases queue'
        exact scanning.pagedNodes once stage queue resumes next rfl new

lemma Paged.sameOrganization {state state' : ScanState} {page : Page} {cursor : Option String}
    {payload : Payload} (paged : Paged source state items cursor page payload state' items')
    (seen : ∀ nodeId item, items.get? (source.id, nodeId) = some item →
      item.seenGeneration ≤ source.generation ∧ item.organizationId = source.organizationId) :
    ∀ nodeId item, items'.get? (source.id, nodeId) = some item →
      item.seenGeneration ≤ source.generation ∧ item.organizationId = source.organizationId := by
  cases paged with
  | workspaces records former stage advances new => exact seen
  | nodes workspaceId parentId records former active rest stage queue advances new =>
    intro nodeId item stored
    by_cases inPage : nodeId ∈ records.map NodeRecord.nodeId
    · obtain ⟨record, mem, rfl⟩ := List.mem_map.1 inPage
      rw [get?_visitAll new.distinct mem] at stored
      cases stored
      refine ⟨le_refl _, ?_⟩
      cases before : items.get? (source.id, record.nodeId) with
      | none => rfl
      | some former => exact (seen record.nodeId former before).2
    · rw [get?_visitAll_other] at stored
      · exact seen nodeId item stored
      · intro record mem eq
        have sameNode : record.nodeId = nodeId := congrArg Prod.snd eq
        exact inPage (sameNode ▸ List.mem_map_of_mem mem)

variable {args : AcceptArgs} {result : GatewayResult}

lemma ReadItem.columns {former : KnowledgeSyncItem}
    (wrote : ReadItem args result source documents read former item) :
    item.key = former.key ∧ seenColumns item
      = (source.generation, former.kind, former.organizationId) := by
  cases wrote with
  | partial_ | complete => exact ⟨rfl, rfl⟩

lemma sameSeen_read {workspaceId nodeId : String} {blank : KnowledgeSyncItem}
    (due : Due source items (.read workspaceId nodeId))
    (wrote : ReadItem args result source documents read
      ((items.get? (source.id, nodeId)).getD blank) item) :
    SameSeen source.id items (items.put item) := by
  cases due with
  | page _ requests => cases requests
  | body _ _ former stored seen =>
    rw [stored, Option.getD_some] at wrote
    obtain ⟨key, columns⟩ := wrote.columns
    apply SameSeen.put
    intro _
    rw [key, show former.key = (source.id, nodeId) from (Table.get?_eq_some.1 stored).2, stored,
      columns, ← seen]
    rfl

lemma Scanned.accepted {payload : Payload} {connectorId : Uuid} {state : ScanState} {later : Time}
    (once : IssuedOnce issued) (more : ∀ entry ∈ issued, entry ∈ issued')
    (scanned : Scanned forest issued source store.items)
    (fenced : Fenced forest issued source store.items job) (leased : source.lease.isSome)
    (phase : job.phase = .returned payload connectorId result)
    (wrote : Accepted args result job.claim source store payload state items') :
    Scanned forest issued' (released later job.claim { source with lastErrorCode := none }
      (.unit { state with failures := none })) items' := by
  obtain ⟨done, scanning⟩ := scanned.scanning (Or.inr leased)
  have eq : job.claim.state = source.scanState.getD .fresh := by
    rw [Claim.state, fenced.scanState]
  have due := fenced.due payload (by rw [phase]; rfl)
  cases wrote with
  | read output read given body node workspace wrote =>
    have unchanged := sameSeen_read due wrote
    refine ⟨unchanged.bounded scanned.seen, fun _ => ?_⟩
    rw [eq]
    exact ⟨done, scanning.transfer more unchanged rfl rfl rfl⟩
  | page output page cursor given body run =>
    rw [eq] at run
    have paged := acceptPage_iff.1 run
    refine ⟨paged.sameOrganization scanned.seen, ?_⟩
    intro _
    cases due with
    | body workspaceId nodeId item stored seen => cases paged
    | page _ requests =>
      have listing : payload.nodeId? = none := by cases requests <;> rfl
      have served := fenced.served payload connectorId result phase output page cursor given
        body listing
      obtain ⟨done', next⟩ := scanning.paged once requests served paged
      exact ⟨done', next.transfer more SameSeen.refl rfl rfl rfl⟩

lemma Accepted.sameSeen {sourceId : Uuid} {payload : Payload} {claim : Claim} {state : ScanState}
    (wrote : Accepted args result claim source store payload state items')
    (other : source.id ≠ sourceId) : SameSeen sourceId store.items items' := by
  cases wrote with
  | @read workspaceId nodeId output read given body node workspace item wrote =>
    apply SameSeen.put
    intro mine
    have named : item.key = (source.id, nodeId) := wrote.columns.1.trans blank_or_stored_key
    have sourceNamed : item.sourceId = source.id := congrArg Prod.fst named
    exact absurd (sourceNamed.symm.trans mine) other
  | page output page cursor given body run =>
    cases acceptPage_iff.1 run with
    | workspaces records former stage advances new => exact SameSeen.refl
    | nodes workspaceId parentId records former active rest stage queue advances new =>
      exact SameSeen.visitAll other

lemma Scanned.failed {failure : Failure} {next : KnowledgeSyncSource}
    (more : ∀ entry ∈ issued, entry ∈ issued') (scanned : Scanned forest issued source items)
    (fenced : Fenced forest issued source items job) (leased : source.lease.isSome)
    (id : next.id = source.id) (organization : next.organizationId = source.organizationId)
    (generation : next.generation = source.generation)
    (scanState : next.scanState = some (retryState job.claim failure)) :
    Scanned forest issued' next (failedItems source failure items) := by
  obtain ⟨done, scanning⟩ := scanned.scanning (Or.inr leased)
  have eq : job.claim.state = source.scanState.getD .fresh := by
    rw [Claim.state, fenced.scanState]
  have unchanged : SameSeen source.id items (failedItems source failure items) :=
    sameSeen_failed source failure
  constructor
  · rw [id, generation, organization]
    exact unchanged.bounded scanned.seen
  · intro _
    rw [id, generation, scanState, Option.getD_some]
    refine ⟨done, scanning.transfer more unchanged ?_ ?_ ?_⟩
    all_goals
      rw [retryState, eq]

end

/-! ## Steps -/

section
variable {forest : Forest} {sourceId : Uuid} {issued issued' : List Issued}
  {world world' : World} {action : Action}

lemma leased_of_held {now : Time} {claim : Claim} {source : KnowledgeSyncSource}
    (holds : held now claim source = true) : source.lease.isSome := by
  obtain ⟨_, _, lease, leased, _⟩ := held_iff.1 holds
  rw [leased]
  rfl

lemma Exploring.committed (exploring : Exploring forest sourceId issued world) {job : Job}
    {source : KnowledgeSyncSource} {later : Time}
    (committed : Committed world job source later world') (own : source.id = sourceId) :
    Fenced forest issued source world.store.items job := by
  obtain ⟨_, _, lease, leased, token, _⟩ := held_iff.1 committed.locked
  have named := get?_id committed.stored
  refine exploring.fenced source (own ▸ committed.row) lease leased job ?_ (named.symm.trans own)
  rw [token]
  exact committed.running

/-- The row of the source and the items it has seen after an action. -/
structure Rescanned (forest : Forest) (sourceId : Uuid) (issued : List Issued) (world : World) :
    Prop where
  unregistered : world.store.sources.get? sourceId = none →
    ∀ nodeId, world.store.items.get? (sourceId, nodeId) = none
  scanned : ∀ source, world.store.sources.get? sourceId = some source →
    Scanned forest issued source world.store.items

lemma Rescanned.same (exploring : Exploring forest sourceId issued world)
    (more : ∀ entry ∈ issued, entry ∈ issued')
    (row : world'.store.sources.get? sourceId = world.store.sources.get? sourceId)
    (eq : SameSeen sourceId world.store.items world'.store.items) :
    Rescanned forest sourceId issued' world' := by
  constructor
  · intro absent nodeId
    rw [row] at absent
    have before := eq nodeId
    rw [exploring.unregistered absent nodeId, Option.map_none, Option.map_eq_none_iff] at before
    exact before
  · intro source stored
    rw [row] at stored
    have named := get?_id stored
    subst named
    exact (exploring.scanned source stored).transfer more eq rfl rfl rfl fun active =>
      ⟨rfl, active⟩

lemma Rescanned.written (exploring : Exploring forest sourceId issued world)
    (more : ∀ entry ∈ issued, entry ∈ issued') {next : KnowledgeSyncSource}
    (rewrites : Rewrites world.store.sources world'.store.sources next)
    (own : next.id = sourceId → Scanned forest issued' next world'.store.items)
    (other : next.id ≠ sourceId → SameSeen sourceId world.store.items world'.store.items) :
    Rescanned forest sourceId issued' world' := by
  have row := rewrites sourceId
  by_cases eq : next.id = sourceId
  · rw [if_pos eq] at row
    constructor
    · intro absent
      rw [row] at absent
      cases absent
    · intro source stored
      rw [row] at stored
      cases stored
      exact own eq
  · rw [if_neg eq] at row
    exact .same exploring more row (other eq)

/-- Only a page that its own tick records changes what the scan reads of the items. -/
lemma change_seen (sourceId : Uuid) (change : Change world action world') :
    SameSeen sourceId world.store.items world'.store.items ∨
      (∃ token args elapsed checkpointed, action = .accept token args elapsed checkpointed) ∧
        ∃ next, world'.store.sources.get? sourceId = some next ∧ next.lease = none := by
  cases change with
  | kept _ items | registered _ _ _ _ _ _ items | claimed _ _ _ _ _ _ _ items
  | disabled _ _ _ items | demanded _ _ _ items => exact .inl (.of_eq items)
  | completed job source later committed phase byPrepare stage idle enumerated sources items =>
    rw [items]
    exact .inl (sameSeen_swept _ _)
  | accepted job source later payload connectorId result args state committed phase byAccept wrote
      sources =>
      by_cases own : source.id = sourceId
      · obtain ⟨elapsed, checkpointed, byAccept⟩ := byAccept
        exact .inr ⟨⟨_, _, _, _, byAccept⟩, _, (sources sourceId).trans (if_pos own), rfl⟩
      · exact .inl (wrote.sameSeen own)
  | failed job source later failure committed phase sources items =>
    rw [items]
    exact .inl (sameSeen_failed source failure)
  | scheduled source stored sources items =>
    rcases items with kept | resumed
    · exact .inl (.of_eq kept)
    rw [resumed]
    exact .inl (sameSeen_suspended source)

lemma rescanned_change (exploring : Exploring forest sourceId issued world)
    (more : ∀ entry ∈ issued, entry ∈ issued') (change : Change world action world') :
    Rescanned forest sourceId issued' world' := by
  cases change with
  | kept sources items => exact .same exploring more (by rw [sources]) (.of_eq items)
  | registered id principal bindingId corpId fresh sources items =>
    refine .written exploring more sources ?_ fun _ => .of_eq items
    rintro rfl
    rw [items]
    exact Scanned.registered (exploring.unregistered fresh)
  | claimed token source byClaim unused stored due sources items =>
    refine .written exploring more sources ?_ fun _ => .of_eq items
    rintro rfl
    rw [items]
    exact (exploring.scanned source stored).claimed more
  | completed job source later committed phase byPrepare stage idle enumerated sources items =>
    have eq : SameSeen sourceId world.store.items world'.store.items := by
      rw [items]
      exact sameSeen_swept _ _
    refine .written exploring more sources ?_ fun _ => eq
    rintro rfl
    refine (exploring.scanned source committed.row).transfer more eq rfl rfl rfl ?_
    rintro (persisted | leased)
    · cases persisted
    · cases leased
  | accepted job source later payload connectorId result args state committed phase byAccept wrote
      sources =>
      refine .written exploring more sources ?_ ?_
      · rintro rfl
        exact (exploring.scanned source committed.row).accepted exploring.once more
          (exploring.committed committed rfl) (leased_of_held committed.locked) phase wrote
      · exact fun other => wrote.sameSeen other
  | failed job source later failure committed phase sources items =>
    have eq : SameSeen sourceId world.store.items world'.store.items := by
      rw [items]
      exact sameSeen_failed source failure
    refine .written exploring more sources ?_ fun _ => eq
    rintro rfl
    rw [items]
    exact (exploring.scanned source committed.row).failed more (exploring.committed committed rfl)
      (leased_of_held committed.locked) rfl rfl rfl rfl
  | disabled source stored sources items =>
    refine .written exploring more sources ?_ fun _ => .of_eq items
    rintro rfl
    rw [items]
    refine (exploring.scanned source stored).transfer more .refl rfl rfl rfl fun active => ?_
    exact ⟨rfl, active.imp_right fun leased => by cases leased⟩
  | scheduled source stored sources items =>
    have eq : SameSeen sourceId world.store.items world'.store.items := by
      rcases items with kept | resumed
      · exact .of_eq kept
      rw [resumed]
      exact sameSeen_suspended source
    refine .written exploring more sources ?_ fun _ => eq
    rintro rfl
    refine (exploring.scanned source stored).transfer more eq rfl rfl rfl ?_
    rintro (persisted | leased)
    · cases persisted
    · cases leased
  | demanded current stale sources items =>
    constructor
    · intro absent nodeId
      rw [sources, Table.get?_update, Option.map_eq_none_iff] at absent
      rw [items]
      exact exploring.unregistered absent nodeId
    · intro source' stored
      rw [sources, Table.get?_update] at stored
      obtain ⟨source, former, rfl⟩ := Option.map_eq_some_iff.1 stored
      have named := get?_id former
      subst named
      rw [items]
      have scanned := exploring.scanned source former
      unfold demanded
      split
      all_goals exact scanned.transfer more SameSeen.refl rfl rfl rfl fun active => ⟨rfl, active⟩

variable {lease : Lease}

lemma change_leased (change : Change world action world') {source' : KnowledgeSyncSource}
    (stored' : world'.store.sources.get? sourceId = some source')
    (leased : source'.lease = some lease) :
    (∃ source, world.store.sources.get? sourceId = some source ∧ source.lease = some lease ∧
      source'.generation = source.generation ∧ source'.scanState = source.scanState ∧
      SameSeen sourceId world.store.items world'.store.items) ∨
    ∃ source, world.store.sources.get? sourceId = some source ∧
      action = .claim sourceId lease.token ∧ unusedToken world lease.token = true ∧
      source' = claimed world.now lease.token source := by
  rcases change_seen sourceId change with eq | ⟨-, next, row, free⟩
  swap
  · rw [stored'] at row
    cases row
    rw [leased] at free
    cases free
  have other : ∀ {next : KnowledgeSyncSource}, Rewrites world.store.sources world'.store.sources next →
      (next.id = sourceId → next.lease = none) →
      ∃ source, world.store.sources.get? sourceId = some source ∧ source.lease = some lease ∧
        source'.generation = source.generation ∧ source'.scanState = source.scanState ∧
        SameSeen sourceId world.store.items world'.store.items := by
    intro next rewrites free
    have row := rewrites sourceId
    rw [stored'] at row
    by_cases own : next.id = sourceId
    · rw [if_pos own] at row
      cases row
      rw [free own] at leased
      cases leased
    · rw [if_neg own] at row
      exact ⟨source', row.symm, leased, rfl, rfl, eq⟩
  cases change with
  | kept sources items =>
    rw [sources] at stored'
    exact .inl ⟨source', stored', leased, rfl, rfl, eq⟩
  | registered _ _ _ _ _ sources | completed _ _ _ _ _ _ _ _ _ sources
  | accepted _ _ _ _ _ _ _ _ _ _ _ _ sources | failed _ _ _ _ _ _ sources
  | disabled _ _ sources | scheduled _ _ sources => exact .inl (other sources fun _ => rfl)
  | claimed token source byClaim unused stored due sources items =>
    have row := sources sourceId
    rw [stored'] at row
    by_cases own : (claimed world.now token source).id = sourceId
    · rw [if_pos own] at row
      have named : source.id = sourceId := own
      subst named
      cases row
      cases leased
      exact .inr ⟨source, stored, byClaim, unused, rfl⟩
    · rw [if_neg own] at row
      exact .inl ⟨source', row.symm, leased, rfl, rfl, eq⟩
  | demanded current stale sources items =>
    rw [sources, Table.get?_update] at stored'
    obtain ⟨source, stored, rfl⟩ := Option.map_eq_some_iff.1 stored'
    refine .inl ⟨source, stored, ?_, ?_, ?_, eq⟩
    · unfold demanded at leased
      split at leased <;> exact leased
    all_goals
      unfold demanded
      split <;> rfl

variable {token : Uuid}

lemma unused_job (unused : unusedToken world token = true) : world.jobs.get? token = none := by
  rw [unusedToken, Bool.and_eq_true] at unused
  exact Option.isNone_iff_eq_none.1 unused.1

lemma unused_lease (unused : unusedToken world token = true) {source : KnowledgeSyncSource}
    (stored : world.store.sources.get? sourceId = some source) (leased : source.lease = some lease) :
    lease.token ≠ token := by
  rw [unusedToken, Bool.and_eq_true, List.all_eq_true] at unused
  have apart := unused.2 source (Table.get?_eq_some.1 stored).1
  rw [leased] at apart
  simpa using apart

lemma due_of_nextCall {source : KnowledgeSyncSource} {items : Items} {preferred : String}
    {payload : Payload} (run : nextCall (source.scanState.getD .fresh) source items preferred
      = .ok (.call payload)) : Due source items payload := by
  rcases nextCall_call run with ⟨_, item, waiting, rfl⟩ | ⟨stage, rfl⟩ |
    ⟨stage, parent, rest, queue, rfl⟩
  · obtain ⟨mem, chosen⟩ := Table.mem_select.1 waiting
    simp only [unread, Bool.and_eq_true, decide_eq_true_eq] at chosen
    obtain ⟨⟨⟨own, seen⟩, _⟩, _⟩ := chosen
    refine .body item.workspaceId item.nodeId item ?_ seen
    rw [← own]
    exact Table.get?_eq_some.2 ⟨mem, rfl⟩
  · exact .page _ (.workspaces stage)
  · exact .page _ (.nodes parent rest stage queue)

lemma fenced_step (exploring : Exploring forest sourceId issued world)
    (run : perform world action = some world')
    (upstream : Upstream forest sourceId world issued action issued')
    {source' : KnowledgeSyncSource} (stored' : world'.store.sources.get? sourceId = some source')
    (leased : source'.lease = some lease) {job' : Job}
    (running : world'.jobs.get? lease.token = some job') (own : job'.claim.sourceId = sourceId) :
    Fenced forest issued' source' world'.store.items job' := by
  have more := upstream.grows
  have arrived := perform_jobs run running
  rcases change_leased (perform_change run) stored' leased with
    ⟨source, stored, held, generation, scanState, eq⟩ | ⟨source, stored, byClaim, unused, rfl⟩
  · have id : source'.id = source.id := (get?_id stored').trans (get?_id stored).symm
    have eq' : SameSeen source.id world.store.items world'.store.items := by
      rw [get?_id stored]
      exact eq
    have before : ∀ {job : Job}, world.jobs.get? lease.token = some job →
        job.claim.sourceId = sourceId → Fenced forest issued source world.store.items job :=
      fun found mine => exploring.fenced source stored lease held _ found mine
    suffices former : Fenced forest issued' source world.store.items job' from
      former.transfer (fun _ mem => mem) eq' id generation scanState
    cases arrived with
    | kept found => exact (before found own).transfer more SameSeen.refl rfl rfl rfl
    | claimed claimedSource byClaim unused _ _ =>
      exact absurd rfl (unused_lease unused stored held)
    | prepared job found phase row rowStored locked payload connectorId preferred next equal =>
      subst equal
      have fenced := before found own
      have row_ : row = source := by
        have mine : job.claim.sourceId = sourceId := own
        rw [mine, stored] at rowStored
        exact (Option.some.inj rowStored).symm
      subst row_
      refine ⟨fenced.generation, fenced.scanState, ?_, ?_⟩
      · intro payload' asked
        cases asked
        rw [Claim.state, fenced.scanState] at next
        exact due_of_nextCall next
      · intro payload' connectorId' result phase'
        cases phase'
    | answered job found payload connectorId phase result byAnswer completed equal =>
      subst equal
      have fenced := before found own
      refine ⟨fenced.generation, fenced.scanState, ?_, ?_⟩
      · intro payload' asked
        cases asked
        exact fenced.due payload (by rw [phase]; rfl)
      · intro payload' connectorId' result' phase' output page cursor given body listing
        cases phase'
        subst byAnswer
        cases upstream with
        | silent _ other => exact absurd own (other lease.token result rfl job found)
        | answers _ _ asker payload' _ asked _ calling answered =>
          rw [found] at asked
          cases asked
          rw [phase] at calling
          cases calling
          cases answered with
          | unlisted bare => exact absurd listing (bare output page cursor completed given body)
          | listed output' page' cursor' given' body' serves =>
            rw [given] at given'
            cases given'
            rw [body] at body'
            cases body'
            exact serves.served
    | failing job found failure node equal =>
      subst equal
      have fenced := before found own
      refine ⟨fenced.generation, fenced.scanState, ?_, ?_⟩
      · intro payload asked
        cases asked
      intro payload connectorId result phase
      cases phase
  · have drawn := unused_job unused
    cases arrived with
    | kept found | prepared _ found | answered _ found | failing _ found =>
      rw [drawn] at found
      cases found
    | claimed claimedSource byClaim' _ claimedStored equal =>
      subst equal
      have named : claimedSource.id = sourceId := own
      rw [named, stored] at claimedStored
      cases claimedStored
      refine ⟨rfl, rfl, ?_, ?_⟩
      · intro payload asked
        cases asked
      intro payload connectorId result phase
      cases phase

lemma exploring_step {before after : World × List Issued}
    (exploring : Exploring forest sourceId before.2 before.1)
    (step : (scan forest sourceId).step before action after) :
    Exploring forest sourceId after.2 after.1 := by
  obtain ⟨run, upstream⟩ := step
  have rescanned := rescanned_change exploring upstream.grows (perform_change run)
  refine ⟨upstream.once exploring.once, rescanned.unregistered, rescanned.scanned, ?_⟩
  intro source stored lease leased job running own
  exact fenced_step exploring run upstream stored leased running own

lemma exploring_run {start state : World × List Issued}
    {moves : List (Move (World × List Issued) Action)} (initial : (scan forest sourceId).init start)
    (path : Path (scan forest sourceId) start moves state) :
    Exploring forest sourceId state.2 state.1 := by
  refine path.preserved (fun before action after holds step => exploring_step holds step) ?_
  obtain ⟨⟨sources, items, jobs⟩, issued⟩ := initial
  refine ⟨?_, ?_, ?_, ?_⟩
  · rw [issued]
    intro left mem
    cases mem
  · intro _ nodeId
    rw [items]
    rfl
  all_goals
    rw [sources]
    intro source stored
    cases stored

end

end Obsion.Knowledge.Sync
