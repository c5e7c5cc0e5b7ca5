import Obsion.Knowledge.Sync.Changes

/-! # Access leases

An item grants external access while it is READY with an expiry.  Only the acceptance
of a complete read without gaps sets the expiry; every other operation keeps the
lease of an item as it is or clears it. -/

namespace Obsion.Knowledge.Sync

open Obsion.Lib

def Granted (item : KnowledgeSyncItem) : Prop :=
  item.status = .ready ∨ item.accessExpiresAt ≠ none

structure SameLease (item item' : KnowledgeSyncItem) : Prop where
  status : item'.status = item.status
  accessExpiresAt : item'.accessExpiresAt = item.accessExpiresAt
  checkedAt : item'.checkedAt = item.checkedAt
  documentId : item'.documentId = item.documentId
  readGeneration : item'.readGeneration = item.readGeneration
  key : item'.key = item.key

lemma SameLease.refl (item : KnowledgeSyncItem) : SameLease item item :=
  ⟨rfl, rfl, rfl, rfl, rfl, rfl⟩

lemma SameLease.trans {first second third : KnowledgeSyncItem} (left : SameLease first second)
    (right : SameLease second third) : SameLease first third :=
  ⟨right.status.trans left.status, right.accessExpiresAt.trans left.accessExpiresAt,
    right.checkedAt.trans left.checkedAt, right.documentId.trans left.documentId,
    right.readGeneration.trans left.readGeneration, right.key.trans left.key⟩

variable {item item' : KnowledgeSyncItem}

lemma SameLease.granted (eq : SameLease item item') (granted : Granted item') : Granted item := by
  rw [Granted, eq.status, eq.accessExpiresAt] at granted
  exact granted

/-- Every lease among the later items is one of the earlier items. -/
def Inherits (items items' : Items) : Prop :=
  ∀ key item', items'.get? key = some item' → Granted item' →
    ∃ item, items.get? key = some item ∧ SameLease item item'

lemma Inherits.refl (items : Items) : Inherits items items :=
  fun _ item found _ => ⟨item, found, SameLease.refl item⟩

lemma Inherits.trans {first second third : Items} (left : Inherits first second)
    (right : Inherits second third) : Inherits first third := by
  intro key item' found granted
  obtain ⟨middle, middleFound, eq⟩ := right key item' found granted
  obtain ⟨item, itemFound, former⟩ := left key middle middleFound (eq.granted granted)
  exact ⟨item, itemFound, former.trans eq⟩

lemma Inherits.update {items : Items} {change : KnowledgeSyncItem → KnowledgeSyncItem}
    {keeps : ∀ item, (change item).key = item.key}
    (unchanged : ∀ item, Granted (change item) → change item = item) :
    Inherits items (items.update change keeps) := by
  intro key item' found granted
  rw [Table.get?_update] at found
  obtain ⟨item, stored, rfl⟩ := Option.map_eq_some_iff.1 found
  have eq := unchanged item granted
  rw [eq]
  exact ⟨item, stored, SameLease.refl item⟩

lemma Inherits.put {items : Items} {next : KnowledgeSyncItem}
    (inherited : Granted next → ∃ item, items.get? next.key = some item ∧ SameLease item next) :
    Inherits items (items.put next) := by
  intro key item' found granted
  rw [Table.get?_put] at found
  split at found
  · next eq =>
    cases found
    subst eq
    exact inherited granted
  · exact ⟨item', found, SameLease.refl item'⟩

section
variable {source : KnowledgeSyncSource} {items items' : Items}

lemma inherits_visit (record : NodeRecord) : Inherits items (visit source record items) := by
  apply Inherits.put
  intro granted
  cases stored : items.get? (source.id, record.nodeId) with
  | none =>
    rw [stored] at granted
    simp [Granted, visited, blankItem] at granted
    split at granted <;> cases granted
  | some former =>
    rw [stored] at granted
    have named : former.key = (source.id, record.nodeId) := (Table.get?_eq_some.1 stored).2
    have kept : SameLease former (visited source record former) := by
      rw [Option.getD_some, Granted, visited] at granted
      by_cases preserve : former.status = .ready ∧ former.kind = record.kind
          ∧ record.kind = "adoc" ∧ former.workspaceId = record.workspaceId
      · exact ⟨if_pos preserve, if_pos preserve, rfl, rfl, rfl, rfl⟩
      simp only [if_neg preserve, ne_eq, not_true_eq_false, or_false] at granted
      split at granted <;> cases granted
    refine ⟨former, ?_, kept⟩
    rw [Option.getD_some, kept.key, named]
    exact stored

variable {state state' : ScanState}

lemma inherits_acceptNodes {depth : Nat} {records : List NodeRecord}
    (run : acceptNodes source depth records state items = .ok (state', items')) :
    Inherits items items' := by
  induction records generalizing state items with
  | nil =>
    cases run
    exact Inherits.refl _
  | cons record rest ih =>
    simp only [acceptNodes] at run
    split at run
    · cases run
    split at run
    · cases run
    exact (inherits_visit record).trans (ih run)

lemma inherits_acceptPage {page : Page} {cursor : Option String} {payload : Payload}
    (run : acceptPage source state items page cursor payload = .ok (state', items')) :
    Inherits items items' := by
  unfold acceptPage at run
  simp only at run
  split at run
  · split at run
    · cases run
    obtain ⟨listed, _, run⟩ := of_bind_ok run
    cases run
    exact Inherits.refl items
  · split at run
    · cases run
    split at run
    · cases run
    split at run
    · cases run
    obtain ⟨⟨listed, accepted⟩, nodes, run⟩ := of_bind_ok run
    cases run
    exact inherits_acceptNodes nodes
  · cases run

lemma not_granted_failed {failure : Failure} {item : KnowledgeSyncItem}
    (status : item.status = failure.status) (cleared : item.accessExpiresAt = none) :
    ¬ Granted item := by
  rintro (ready | leased)
  · rw [status, Failure.status] at ready
    split at ready <;> cases ready
  · exact leased cleared

lemma inherits_failed (failure : Failure) : Inherits items (failedItems source failure items) := by
  unfold failedItems
  split
  · unfold failedRead
    split
    · exact Inherits.refl items
    apply Inherits.put
    intro granted
    exact absurd granted (not_granted_failed rfl rfl)
  · apply Inherits.update
    intro item granted
    unfold revoked at granted ⊢
    split at granted
    · next own =>
      rcases granted with ready | leased
      · simp only at ready
        split at ready
        · unfold Failure.status at ready
          split at ready <;> cases ready
        next idle => exact absurd ready idle
      · exact absurd rfl leased
    · next other => exact if_neg other

lemma inherits_swept (claim : Claim) :
    Inherits items (items.update (swept claim source) (key_swept claim source)) := by
  apply Inherits.update
  intro item granted
  unfold swept at granted ⊢
  split at granted
  · rcases granted with ready | leased
    · cases ready
    exact absurd rfl leased
  · next seen => exact if_neg seen

lemma inherits_suspended : Inherits items (items.update (suspended source) (key_suspended source)) := by
  apply Inherits.update
  intro item granted
  unfold suspended at granted ⊢
  split at granted
  · rcases granted with ready | leased
    · cases ready
    exact absurd rfl leased
  · next other => exact if_neg other

end

/-- The move accepted a complete read of the item for the user of its source. -/
inductive ReadAccepted (move : Move World Action) (item : KnowledgeSyncItem) (observedAt : Time)
    (documentId : Uuid) : Prop
  | intro (job : Job) (source : KnowledgeSyncSource) (workspaceId : String) (connectorId : Uuid)
      (result : GatewayResult) (args : AcceptArgs) (elapsed checkpointed : Nat) (read : ReadOutput)
      (running : move.before.jobs.get? job.token = some job)
      (phase : job.phase = .returned (.read workspaceId item.nodeId) connectorId result)
      (byAccept : move.action = .accept job.token args elapsed checkpointed)
      (claimed : job.claim.sourceId = item.sourceId)
      (stored : move.before.store.sources.get? item.sourceId = some source)
      (node : read.nodeId = item.nodeId)
      (complete : CompleteRead args result source move.before.store.documents read observedAt
        documentId)
      (generation : item.readGeneration = source.generation
        ∧ source.generation = job.claim.generation)

variable {move : Move World Action} {observedAt : Time} {documentId : Uuid}

lemma ReadAccepted.transfer (eq : SameLease item item')
    (accepted : ReadAccepted move item observedAt documentId) :
    ReadAccepted move item' observedAt documentId := by
  obtain ⟨job, source, workspaceId, connectorId, result, args, elapsed, checkpointed, read, running,
    phase, byAccept, claimed, stored, node, complete, generation⟩ := accepted
  have sourceId : item'.sourceId = item.sourceId := congrArg Prod.fst eq.key
  have nodeId : item'.nodeId = item.nodeId := congrArg Prod.snd eq.key
  refine ⟨job, source, workspaceId, connectorId, result, args, elapsed, checkpointed, read, running,
    ?_, byAccept, ?_, ?_, ?_, complete, ?_⟩
  · rw [nodeId]
    exact phase
  · rw [sourceId]
    exact claimed
  · rw [sourceId]
    exact stored
  · rw [nodeId]
    exact node
  · rw [eq.readGeneration]
    exact generation

structure LeasedBy (move : Move World Action) (item : KnowledgeSyncItem) (observedAt : Time)
    (documentId : Uuid) : Prop where
  status : item.status = .ready
  checkedAt : item.checkedAt = some observedAt
  document : item.documentId = some documentId
  accessExpiresAt : item.accessExpiresAt = some (observedAt + seconds accessLeaseSeconds)
  accepted : ReadAccepted move item observedAt documentId

lemma LeasedBy.transfer (eq : SameLease item item')
    (leased : LeasedBy move item observedAt documentId) :
    LeasedBy move item' observedAt documentId :=
  ⟨eq.status.trans leased.status, eq.checkedAt.trans leased.checkedAt,
    eq.documentId.trans leased.document, eq.accessExpiresAt.trans leased.accessExpiresAt,
    leased.accepted.transfer eq⟩

section
variable {world world' : World} {action : Action}

lemma change_lease (change : Change world action world') {key : Uuid × String}
    {item' : KnowledgeSyncItem} (found : world'.store.items.get? key = some item')
    (granted : Granted item') :
    (∃ item, world.store.items.get? key = some item ∧ SameLease item item') ∨
      ∃ observedAt documentId, LeasedBy ⟨world, action, world'⟩ item' observedAt documentId := by
  have inherited : ∀ {items : Items}, world'.store.items = items → Inherits world.store.items items →
      ∃ item, world.store.items.get? key = some item ∧ SameLease item item' := by
    intro items eq inherits
    rw [eq] at found
    exact inherits key item' found granted
  cases change with
  | kept _ items | registered _ _ _ _ _ _ items | claimed _ _ _ _ _ _ _ items
  | disabled _ _ _ items | demanded _ _ _ items => exact .inl (inherited items (Inherits.refl _))
  | completed job source _ _ _ _ _ _ _ _ items =>
    exact .inl (inherited items (inherits_swept job.claim))
  | failed _ _ _ failure _ _ _ items => exact .inl (inherited items (inherits_failed failure))
  | scheduled _ _ _ items =>
    rcases items with eq | resumed
    · exact .inl (inherited eq (Inherits.refl _))
    exact .inl (inherited resumed inherits_suspended)
  | accepted job source later payload connectorId result args state committed phase byAccept wrote
      _ =>
      generalize itemsEq : world'.store.items = items' at found wrote
      cases wrote with
      | page output page cursor given body run =>
        exact .inl (inherits_acceptPage run key item' found granted)
      | @read workspaceId nodeId output read given body node workspace item wrote =>
        rw [Table.get?_put] at found
        split at found
        · cases found
          have formerKey : ∀ former : KnowledgeSyncItem,
              (world.store.items.get? (source.id, nodeId)).getD
                (blankItem source nodeId workspaceId "adoc" read.title) = former →
              former.key = (source.id, nodeId) := by
            rintro former rfl
            cases stored : world.store.items.get? (source.id, nodeId) with
            | none => rfl
            | some former => exact (Table.get?_eq_some.1 stored).2
          generalize formerEq : (world.store.items.get? (source.id, nodeId)).getD
            (blankItem source nodeId workspaceId "adoc" read.title) = former at wrote
          have named := formerKey former formerEq
          have sourceId : former.sourceId = source.id := congrArg Prod.fst named
          have nodeIdEq : former.nodeId = nodeId := congrArg Prod.snd named
          have ownId := get?_id committed.stored
          obtain ⟨elapsed, checkpointed, byAccept⟩ := byAccept
          cases wrote with
          | partial_ observedAt =>
            rcases granted with ready | leased
            · cases ready
            exact absurd rfl leased
          | complete observedAt documentId complete =>
            refine .inr ⟨observedAt, documentId, rfl, rfl, rfl, rfl, ?_⟩
            refine ⟨job, source, workspaceId, connectorId, result, args, elapsed, checkpointed,
              read, committed.running, ?_, byAccept, ?_, ?_, node.trans nodeIdEq.symm, complete,
              rfl, (held_iff.1 committed.locked).2.1⟩
            · rw [phase]
              exact congrArg (fun node => Phase.returned (.read workspaceId node) connectorId
                result) nodeIdEq.symm
            · exact ownId.symm.trans sourceId.symm
            · have target : (leased observedAt documentId
                  (observed source read observedAt former)).sourceId = job.claim.sourceId :=
                sourceId.trans ownId
              rw [target]
              exact committed.stored
        · exact .inl ⟨item', found, SameLease.refl item'⟩

/-- Every lease comes from a read that some earlier move accepted. -/
def Leased (moves : List (Move World Action)) (world : World) : Prop :=
  ∀ key item, world.store.items.get? key = some item → Granted item →
    ∃ observedAt documentId, ∃ move ∈ moves, LeasedBy move item observedAt documentId

variable {moves : List (Move World Action)}

lemma leased_step (holds : Leased moves world) (run : perform world action = some world') :
    Leased (moves ++ [⟨world, action, world'⟩]) world' := by
  intro key item' found granted
  rcases change_lease (perform_change run) found granted with ⟨item, stored, eq⟩ | accepted
  · obtain ⟨observedAt, documentId, move, mem, leased⟩ :=
      holds key item stored (eq.granted granted)
    exact ⟨observedAt, documentId, move, List.mem_append_left _ mem, leased.transfer eq⟩
  · obtain ⟨observedAt, documentId, leased⟩ := accepted
    exact ⟨observedAt, documentId, _, List.mem_append_right _ List.mem_cons_self, leased⟩

lemma leased_run {start : World} (blank : Blank start) (path : Path sync start moves world) :
    Leased moves world := by
  refine path.tracked (fun moves before action after holds step => leased_step holds step) ?_
  intro key item found
  rw [blank.2.1] at found
  cases found

/-- External access is granted by a fresh complete read and by nothing else. -/
theorem access_by_read {start : World} {moves : List (Move World Action)} (blank : Blank start)
    (path : Path sync start moves world) :
    (∀ item ∈ world.store.items, ∀ expiresAt, item.accessExpiresAt = some expiresAt →
      item.status = .ready ∧ ∃ observedAt documentId, item.checkedAt = some observedAt ∧
        expiresAt = observedAt + seconds 300 ∧ item.documentId = some documentId ∧
        ∃ move ∈ moves, ReadAccepted move item observedAt documentId) ∧
    ∀ move ∈ moves, ∀ item' ∈ move.after.store.items, item'.accessExpiresAt = none ∨
      (∃ item ∈ move.before.store.items, item.key = item'.key
        ∧ item.accessExpiresAt = item'.accessExpiresAt) ∨
      ∃ observedAt documentId, ReadAccepted move item' observedAt documentId := by
  constructor
  · intro item member expiresAt expires
    have found : world.store.items.get? item.key = some item := Table.get?_eq_some.2 ⟨member, rfl⟩
    have granted : Granted item := Or.inr (by rw [expires]; exact Option.some_ne_none _)
    obtain ⟨observedAt, documentId, move, earlier, leased⟩ :=
      leased_run blank path item.key item found granted
    have same := leased.accessExpiresAt
    rw [expires] at same
    exact ⟨leased.status, observedAt, documentId, leased.checkedAt, Option.some.inj same,
      leased.document, move, earlier, leased.accepted⟩
  · intro move member item' after
    have found : move.after.store.items.get? item'.key = some item' :=
      Table.get?_eq_some.2 ⟨after, rfl⟩
    have change := perform_change (path.step_of_mem member)
    by_cases cleared : item'.accessExpiresAt = none
    · exact .inl cleared
    rcases change_lease change found (Or.inr cleared) with ⟨item, stored, same⟩ | accepted
    · obtain ⟨before, _⟩ := Table.get?_eq_some.1 stored
      exact .inr (Or.inl ⟨item, before, same.key.symm, same.accessExpiresAt.symm⟩)
    obtain ⟨observedAt, documentId, leased⟩ := accepted
    exact .inr (Or.inr ⟨observedAt, documentId, leased.accepted⟩)

end

def sampleSource : Uuid := sampleId 5

def sampleUser : Principal := ⟨sampleId 0, sampleOrganization, ["knowledge.write"]⟩

def sampleResult (body : OutputBody) : GatewayResult where
  status := .completed
  policyDecisionId := some (sampleId 9)
  output := some
    { adapter := managedConnectorType, corpId := "corp", bindingId := (sampleId 6).str
      readerUserId := sampleUser.id.str
      body }
  errorCode := none
  connectorId := some (sampleId 8)

def sampleArgs : AcceptArgs where
  checks := .ok ⟨sampleUser, sampleId 8, "wiki"⟩
  codecs := sampleCodecs
  documentId := sampleId 10
  versionId := sampleId 11
  chunkIds _ := sampleId 12
  embed := .ok ()
  put := .ok ()

def sampleTick (token : Uuid) (body : OutputBody) : List Action :=
  [.claim sampleSource token, .prepare token (.ok (sampleId 8)) "" 0,
    .answer token (sampleResult body), .accept token sampleArgs 0 0]

def sampleRead : ReadOutput where
  nodeId := "document"
  workspaceId := "wiki"
  title := "Handbook"
  revision := "r1"
  text := some "a"
  complete := true
  gaps := []
  parserVersion := "dingtalk-jsonml-v2"
  rawChecksumSha256 := "ca978112ca1bbdcafac231b39a23dc4da786eff8147c4e72b9807785afee48bb"
  observedText := "1970-01-01T00:00:00+00:00"
  observedAt := some 0

def sampleStart : World := ⟨0, ⟨.empty, .empty, ⟨.empty, .empty, .empty, .empty⟩⟩, .empty⟩

def sampleScan : List Action :=
  [.register sampleSource sampleUser (sampleId 6) "corp"] ++
    sampleTick (sampleId 13) (.discovery (.workspaces [⟨"wiki", "root", "Wiki"⟩]) none) ++
    sampleTick (sampleId 14)
      (.discovery (.nodes "wiki" "root" [⟨"wiki", "document", "Handbook", "adoc", false⟩]) none) ++
    sampleTick (sampleId 15) (.read sampleRead)

theorem access_by_read_handbook : ∃ moves world, Path sync sampleStart moves world ∧
    ∃ item ∈ world.store.items, item.accessExpiresAt = some (seconds 300) ∧ item.status = .ready := by
  obtain ⟨moves, world, item, run, member, expires⟩ :
      ∃ (moves : List (Move World Action)) (world : World) (item : KnowledgeSyncItem),
        replay perform sampleStart sampleScan = some (moves, world) ∧
        world.store.items.rows = [item] ∧ item.accessExpiresAt = some (seconds 300) :=
    ⟨_, _, _, rfl, rfl, rfl⟩
  have path : Path sync sampleStart moves world := Path.of_replay run
  have stored : item ∈ world.store.items := by
    rw [Table.mem_iff, member]
    exact List.mem_cons_self
  have granted := (access_by_read ⟨rfl, rfl, rfl⟩ path).1 item stored _ expires
  exact ⟨moves, world, path, item, stored, expires, granted.1⟩

end Obsion.Knowledge.Sync
