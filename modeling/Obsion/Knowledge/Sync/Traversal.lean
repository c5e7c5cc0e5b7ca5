import Obsion.Knowledge.Sync.Changes

/-! # Pages of a forest

The upstream is a forest that is served in pages.  A page is accepted exactly where
none of its records repeats one of the scan, and then it appends the children of its
records to the queue.  `Scanning` relates the persisted state of a scan to the forest:
every listing that was opened is queued at the offset of its cursor or was explored to
its end, and only nodes of the forest were seen. -/

namespace Obsion.Knowledge.Sync

open Obsion.Lib

/-! ## What a page makes of the scan -/

def rootEntry (record : WorkspaceRecord) : QueueEntry :=
  ⟨record.workspaceId, record.rootNodeId, none, [], 0⟩

def childEntry (depth : Nat) (record : NodeRecord) : QueueEntry :=
  ⟨record.workspaceId, record.nodeId, none, [], depth + 1⟩

def childEntries (depth : Nat) (records : List NodeRecord) : List QueueEntry :=
  (records.filter NodeRecord.hasChildren).map (childEntry depth)

def visitAll (source : KnowledgeSyncSource) (records : List NodeRecord) (items : Items) : Items :=
  records.foldl (fun items record => visit source record items) items

/-- The workspaces of a page are new to the scan. -/
structure NewWorkspaces (state : ScanState) (records : List WorkspaceRecord) : Prop where
  unlisted : ∀ record ∈ records, record.workspaceId ∉ state.workspaces
  distinct : (records.map WorkspaceRecord.workspaceId).Nodup

structure NewNodes (source : KnowledgeSyncSource) (items : Items) (depth : Nat)
    (records : List NodeRecord) : Prop where
  unseen : ∀ record ∈ records, seenNow source items record.nodeId = false
  distinct : (records.map NodeRecord.nodeId).Nodup
  shallow : ∀ record ∈ records, record.hasChildren = true → depth < depthBudget

section
variable {source : KnowledgeSyncSource} {items items' : Items} {state state' : ScanState}
  {depth : Nat} {cursor former : Option String}

lemma newWorkspaces_cons {record : WorkspaceRecord} {rest : List WorkspaceRecord} {next : ScanState}
    (listed : next.workspaces = state.workspaces ++ [record.workspaceId]) :
    NewWorkspaces state (record :: rest) ↔
      record.workspaceId ∉ state.workspaces ∧ NewWorkspaces next rest := by
  constructor
  · rintro ⟨unlisted, distinct⟩
    rw [List.map_cons, List.nodup_cons] at distinct
    refine ⟨unlisted record List.mem_cons_self, ?_, distinct.2⟩
    intro other mem
    rw [listed, List.mem_append, List.mem_singleton, not_or]
    refine ⟨unlisted other (List.mem_cons_of_mem _ mem), ?_⟩
    intro eq
    exact distinct.1 (eq ▸ List.mem_map_of_mem mem)
  · rintro ⟨first, unlisted, distinct⟩
    constructor
    · intro other mem
      rcases List.mem_cons.1 mem with rfl | inRest
      · exact first
      have apart := unlisted other inRest
      rw [listed, List.mem_append, not_or] at apart
      exact apart.1
    · rw [List.map_cons, List.nodup_cons]
      refine ⟨?_, distinct⟩
      intro mem
      obtain ⟨other, otherIn, eq⟩ := List.mem_map.1 mem
      have apart := unlisted other otherIn
      rw [listed, List.mem_append, List.mem_singleton, not_or] at apart
      exact apart.2 eq

lemma acceptWorkspaces_iff {records : List WorkspaceRecord} :
    acceptWorkspaces records state = .ok state' ↔ NewWorkspaces state records ∧ state' = { state with
        workspaces := state.workspaces ++ records.map WorkspaceRecord.workspaceId
        queue := state.queue ++ records.map rootEntry } := by
  induction records generalizing state with
  | nil =>
    simp only [acceptWorkspaces, List.map_nil, List.append_nil, Except.ok.injEq]
    constructor
    · rintro rfl
      exact ⟨⟨nofun, List.nodup_nil⟩, rfl⟩
    exact fun both => both.2.symm
  | cons record rest ih =>
    simp only [acceptWorkspaces]
    by_cases known : record.workspaceId ∈ state.workspaces
    · rw [if_pos known]
      constructor
      · intro run
        cases run
      rintro ⟨new, _⟩
      exact absurd known (new.unlisted record List.mem_cons_self)
    · let next : ScanState := { state with
        workspaces := state.workspaces ++ [record.workspaceId]
        queue := state.queue ++ [⟨record.workspaceId, record.rootNodeId, none, [], 0⟩] }
      have parts : NewWorkspaces state (record :: rest) ↔
        record.workspaceId ∉ state.workspaces ∧ NewWorkspaces next rest := newWorkspaces_cons rfl
      rw [if_neg known, ih, parts]
      simp [known, rootEntry, next]

lemma visited_key (record : NodeRecord) (former : KnowledgeSyncItem) :
    (visited source record former).key = former.key := rfl

lemma blank_or_stored_key {nodeId workspaceId kind title : String} :
    ((items.get? (source.id, nodeId)).getD (blankItem source nodeId workspaceId kind title)).key
      = (source.id, nodeId) := by
  cases stored : items.get? (source.id, nodeId) with
  | none => rfl
  | some former => exact (Table.get?_eq_some.1 stored).2

lemma get?_visit (record : NodeRecord) (key : Uuid × String) : (visit source record items).get? key
      = if (source.id, record.nodeId) = key then
          some (visited source record ((items.get? (source.id, record.nodeId)).getD
            (blankItem source record.nodeId record.workspaceId record.kind record.title)))
        else items.get? key := by
  rw [visit, Table.get?_put, visited_key, blank_or_stored_key]

lemma seenNow_iff {nodeId : String} : seenNow source items nodeId = true ↔
    ∃ item, items.get? (source.id, nodeId) = some item
      ∧ item.seenGeneration = source.generation := by
  rw [seenNow, Option.any_eq_true]
  simp

lemma seenNow_visit (record : NodeRecord) (nodeId : String) :
    seenNow source (visit source record items) nodeId = true ↔
      record.nodeId = nodeId ∨ seenNow source items nodeId = true := by
  rw [seenNow_iff, seenNow_iff, get?_visit]
  by_cases eq : record.nodeId = nodeId
  · subst eq
    rw [if_pos rfl]
    exact ⟨fun _ => Or.inl rfl, fun _ => ⟨_, rfl, rfl⟩⟩
  · have apart : (source.id, record.nodeId) ≠ (source.id, nodeId) :=
      fun equal => eq (congrArg Prod.snd equal)
    rw [if_neg apart, or_iff_right eq]

lemma newNodes_cons {record : NodeRecord} {rest : List NodeRecord} :
    NewNodes source items depth (record :: rest) ↔ seenNow source items record.nodeId = false ∧
        (record.hasChildren = true → depth < depthBudget) ∧
        NewNodes source (visit source record items) depth rest := by
  constructor
  · rintro ⟨unseen, distinct, shallow⟩
    rw [List.map_cons, List.nodup_cons] at distinct
    refine ⟨unseen record List.mem_cons_self, shallow record List.mem_cons_self, ?_, distinct.2, ?_⟩
    · intro other mem
      rw [← Bool.not_eq_true, seenNow_visit, not_or, Bool.not_eq_true]
      refine ⟨?_, unseen other (List.mem_cons_of_mem _ mem)⟩
      intro eq
      exact distinct.1 (eq ▸ List.mem_map_of_mem mem)
    · exact fun other mem => shallow other (List.mem_cons_of_mem _ mem)
  · rintro ⟨first, shallowFirst, unseen, distinct, shallow⟩
    have apart : ∀ other ∈ rest, record.nodeId ≠ other.nodeId
        ∧ seenNow source items other.nodeId = false := by
      intro other mem
      have later := unseen other mem
      rw [← Bool.not_eq_true, seenNow_visit, not_or, Bool.not_eq_true] at later
      exact later
    refine ⟨?_, ?_, ?_⟩
    · intro other mem
      rcases List.mem_cons.1 mem with rfl | inRest
      · exact first
      exact (apart other inRest).2
    · rw [List.map_cons, List.nodup_cons]
      refine ⟨?_, distinct⟩
      intro mem
      obtain ⟨other, otherIn, eq⟩ := List.mem_map.1 mem
      exact (apart other otherIn).1 eq.symm
    · intro other mem children
      rcases List.mem_cons.1 mem with rfl | inRest
      · exact shallowFirst children
      exact shallow other inRest children

lemma acceptNodes_iff {records : List NodeRecord} :
    acceptNodes source depth records state items = .ok (state', items') ↔
      NewNodes source items depth records ∧
        state' = { state with queue := state.queue ++ childEntries depth records } ∧
        items' = visitAll source records items := by
  induction records generalizing state items with
  | nil =>
    simp only [acceptNodes, Except.ok.injEq, Prod.mk.injEq]
    constructor
    · rintro ⟨rfl, rfl⟩
      refine ⟨⟨?_, List.nodup_nil, ?_⟩, by simp [childEntries], rfl⟩
      all_goals exact nofun
    · rintro ⟨_, rfl, rfl⟩
      simp [childEntries]
  | cons record rest ih =>
    simp only [acceptNodes]
    rw [newNodes_cons]
    by_cases known : seenNow source items record.nodeId = true
    · rw [if_pos known]
      constructor
      · intro run
        cases run
      rintro ⟨⟨new, _⟩, _⟩
      rw [known] at new
      cases new
    · rw [if_neg known]
      rw [Bool.not_eq_true] at known
      by_cases deep : record.hasChildren = true ∧ depthBudget ≤ depth
      · rw [if_pos deep]
        constructor
        · intro run
          cases run
        rintro ⟨⟨_, shallow, _⟩, _⟩
        exact absurd (shallow deep.1) (Nat.not_lt.2 deep.2)
      · rw [if_neg deep, ih]
        have shallow : record.hasChildren = true → depth < depthBudget :=
          fun children => Nat.not_le.1 fun bound => deep ⟨children, bound⟩
        cases children : record.hasChildren with
        | false => simp [known, childEntries, visitAll, children]
        | true =>
          rw [children] at shallow
          simp [known, shallow, childEntries, visitAll, children, childEntry]

lemma get?_visitAll_other {records : List NodeRecord} {key : Uuid × String}
    (apart : ∀ record ∈ records, (source.id, record.nodeId) ≠ key) :
    (visitAll source records items).get? key = items.get? key := by
  induction records generalizing items with
  | nil => rfl
  | cons record rest ih =>
    rw [visitAll, List.foldl_cons, ← visitAll,
      ih fun other mem => apart other (List.mem_cons_of_mem _ mem), get?_visit,
      if_neg (apart record List.mem_cons_self)]

lemma get?_visitAll {records : List NodeRecord} (distinct : (records.map NodeRecord.nodeId).Nodup)
    {record : NodeRecord} (mem : record ∈ records) :
    (visitAll source records items).get? (source.id, record.nodeId)
      = some (visited source record ((items.get? (source.id, record.nodeId)).getD
          (blankItem source record.nodeId record.workspaceId record.kind record.title))) := by
  induction records generalizing items with
  | nil => cases mem
  | cons first rest ih =>
    rw [List.map_cons, List.nodup_cons] at distinct
    rw [visitAll, List.foldl_cons, ← visitAll]
    rcases List.mem_cons.1 mem with rfl | inRest
    · rw [get?_visitAll_other, get?_visit, if_pos rfl]
      intro other otherIn eq
      have sameNode : other.nodeId = record.nodeId := congrArg Prod.snd eq
      exact distinct.1 (sameNode ▸ List.mem_map_of_mem otherIn)
    · have apart : (source.id, first.nodeId) ≠ (source.id, record.nodeId) := by
        intro eq
        have sameNode : first.nodeId = record.nodeId := congrArg Prod.snd eq
        exact distinct.1 (sameNode ▸ List.mem_map_of_mem inRest)
      rw [ih distinct.2 inRest, get?_visit, if_neg apart]

def pagedWorkspaces (state : ScanState) (records : List WorkspaceRecord) (cursor : Option String) :
    ScanState :=
  let listed : ScanState := { state with
    cursor := cursor, seenCursors := state.seenCursors ++ cursor.toList
    workspaces := state.workspaces ++ records.map WorkspaceRecord.workspaceId
    queue := state.queue ++ records.map rootEntry }
  if cursor.isSome then listed else closeEnumeration { listed with stage := .nodes }

def pagedNodes (state : ScanState) (active : QueueEntry) (rest : List QueueEntry)
    (records : List NodeRecord) (cursor : Option String) : ScanState :=
  let queue := rest ++ childEntries active.depth records
  if cursor.isSome then
    { state with
      queue := { active with cursor := cursor, seenCursors := active.seenCursors ++ cursor.toList }
        :: queue }
  else closeEnumeration { state with queue := queue }

inductive Paged (source : KnowledgeSyncSource) (state : ScanState) (items : Items)
    (cursor : Option String) : Page → Payload → ScanState → Items → Prop
  | workspaces (records : List WorkspaceRecord) (former : Option String)
      (stage : state.stage = .workspaces)
      (advances : repeatedCursor cursor former state.seenCursors = false)
      (new : NewWorkspaces state records) :
      Paged source state items cursor (.workspaces records) (.workspaces former)
        (pagedWorkspaces state records cursor) items
  | nodes (workspaceId parentId : String) (records : List NodeRecord) (former : Option String)
      (active : QueueEntry) (rest : List QueueEntry) (stage : state.stage = .nodes)
      (queue : state.queue = active :: rest)
      (advances : repeatedCursor cursor former active.seenCursors = false)
      (new : NewNodes source items active.depth records) :
      Paged source state items cursor (.nodes workspaceId parentId records)
        (.nodes workspaceId parentId former) (pagedNodes state active rest records cursor)
        (visitAll source records items)

lemma bind_pure_ok {ε α β : Type} {computation : Except ε α} {next : α → β} {value : β} :
    (computation >>= fun found => (pure (next found) : Except ε β)) = .ok value ↔
      ∃ found, computation = .ok found ∧ next found = value := by
  constructor
  · intro run
    obtain ⟨found, first, eq⟩ := of_bind_ok run
    exact ⟨found, first, Except.ok.inj eq⟩
  · rintro ⟨found, rfl, rfl⟩
    rfl

lemma acceptPage_iff {page : Page} {payload : Payload} :
    acceptPage source state items page cursor payload = .ok (state', items') ↔
      Paged source state items cursor page payload state' items' := by
  constructor
  · intro run
    unfold acceptPage at run
    simp only at run
    split at run
    · next records former stage =>
      split at run
      · cases run
      next advances =>
      obtain ⟨listed, accepted, eq⟩ := bind_pure_ok.1 run
      obtain ⟨new, rfl⟩ := acceptWorkspaces_iff.1 accepted
      cases eq
      exact .workspaces records former stage (Bool.not_eq_true _ ▸ advances)
        ⟨new.unlisted, new.distinct⟩
    · next workspaceId parentId records askedWorkspace askedParent former stage =>
      split at run
      · cases run
      next active rest queue =>
      split at run
      · cases run
      next asked =>
      simp only [not_or, Decidable.not_not] at asked
      obtain ⟨rfl, rfl⟩ := asked
      split at run
      · cases run
      next advances =>
      obtain ⟨⟨listed, accepted⟩, nodes, eq⟩ := bind_pure_ok.1 run
      obtain ⟨new, rfl, rfl⟩ := acceptNodes_iff.1 nodes
      cases eq
      exact .nodes _ _ records former active rest stage queue (Bool.not_eq_true _ ▸ advances) new
    · cases run
  · intro paged
    cases paged with
    | workspaces records former stage advances new =>
      cases state
      simp only at stage
      subst stage
      simp only [acceptPage, advances, Bool.false_eq_true, if_false]
      exact bind_pure_ok.2 ⟨_, acceptWorkspaces_iff.2 ⟨⟨new.unlisted, new.distinct⟩, rfl⟩, rfl⟩
    | nodes workspaceId parentId records former active rest stage queue advances new =>
      cases state
      simp only at stage queue
      subst stage queue
      simp only [acceptPage, advances, Bool.false_eq_true, if_false, ne_eq, not_true_eq_false, or_false]
      exact bind_pure_ok.2 ⟨_, acceptNodes_iff.2 ⟨new, rfl, rfl⟩, rfl⟩

end

/-! ## The upstream -/

/-- Workspaces, and the nodes listed below each node of each workspace. -/
structure Forest where
  workspaces : List WorkspaceRecord
  children : String → String → List NodeRecord

/-- The listings below the roots, with their depth; nodes that report children have one. -/
inductive Forest.Listed (forest : Forest) : String → String → Nat → Prop
  | root (record : WorkspaceRecord) (member : record ∈ forest.workspaces) :
      Listed forest record.workspaceId record.rootNodeId 0
  | child {workspaceId parentId : String} {depth : Nat} (record : NodeRecord)
      (parent : Listed forest workspaceId parentId depth)
      (member : record ∈ forest.children workspaceId parentId)
      (children : record.hasChildren = true) :
      Listed forest record.workspaceId record.nodeId (depth + 1)

def Forest.Reaches (forest : Forest) (record : NodeRecord) : Prop :=
  ∃ workspaceId parentId depth, forest.Listed workspaceId parentId depth
    ∧ record ∈ forest.children workspaceId parentId

inductive Listing
  | workspaces
  | nodes (workspaceId parentId : String)
  deriving DecidableEq, Repr

/-- A cursor that the upstream issued: the page it continues with starts at an offset. -/
structure Issued where
  listing : Listing
  cursor : String
  offset : Nat
  deriving DecidableEq, Repr

def Resumes (issued : List Issued) (listing : Listing) (offset : Nat) : Option String → Prop
  | none => offset = 0
  | some cursor => ⟨listing, cursor, offset⟩ ∈ issued

def IssuedOnce (issued : List Issued) : Prop :=
  ∀ left ∈ issued, ∀ right ∈ issued, left.listing = right.listing → left.cursor = right.cursor →
    left.offset = right.offset

/-- The cursor after the records up to an offset: a new one, or none at the end. -/
inductive Continues (issued : List Issued) (listing : Listing) (offset total : Nat) :
    Option String → List Issued → Prop
  | done (complete : total ≤ offset) : Continues issued listing offset total none issued
  | more (cursor : String)
      (unused : ∀ entry ∈ issued, entry.listing = listing → entry.cursor ≠ cursor) :
      Continues issued listing offset total (some cursor) (issued ++ [⟨listing, cursor, offset⟩])

/-- A page of any size, from the offset of the cursor on. -/
inductive Serves (forest : Forest) (issued : List Issued) :
    Payload → Page → Option String → List Issued → Prop
  | workspaces {former cursor : Option String} {issued' : List Issued} (offset size : Nat)
      (resumes : Resumes issued .workspaces offset former)
      (continues : Continues issued .workspaces (offset + size) forest.workspaces.length cursor
        issued') :
      Serves forest issued (.workspaces former)
        (.workspaces ((forest.workspaces.drop offset).take size)) cursor issued'
  | nodes {workspaceId parentId : String} {former cursor : Option String} {issued' : List Issued}
      (offset size : Nat) (resumes : Resumes issued (.nodes workspaceId parentId) offset former)
      (continues : Continues issued (.nodes workspaceId parentId) (offset + size)
        (forest.children workspaceId parentId).length cursor issued') :
      Serves forest issued (.nodes workspaceId parentId former)
        (.nodes workspaceId parentId (((forest.children workspaceId parentId).drop offset).take size))
        cursor issued'

section
variable {forest : Forest} {issued issued' : List Issued} {listing : Listing} {offset other : Nat}
  {cursor : Option String}

lemma Resumes.unique (once : IssuedOnce issued) (left : Resumes issued listing offset cursor)
    (right : Resumes issued listing other cursor) : offset = other := by
  cases cursor with
  | none => exact left.trans right.symm
  | some text => exact once _ left _ right rfl rfl

lemma Resumes.grow (more : ∀ entry ∈ issued, entry ∈ issued')
    (resumes : Resumes issued listing offset cursor) : Resumes issued' listing offset cursor := by
  cases cursor with
  | none => exact resumes
  | some text => exact more _ resumes

variable {total : Nat}

lemma Continues.grows (continues : Continues issued listing offset total cursor issued') :
    ∀ entry ∈ issued, entry ∈ issued' := by
  cases continues with
  | done => exact fun _ mem => mem
  | more cursor unused => exact fun _ mem => List.mem_append_left _ mem

lemma Continues.once (once : IssuedOnce issued)
    (continues : Continues issued listing offset total cursor issued') : IssuedOnce issued' := by
  cases continues with
  | done => exact once
  | more cursor unused =>
    intro left leftIn right rightIn sameListing sameCursor
    rw [List.mem_append, List.mem_singleton] at leftIn rightIn
    rcases leftIn with leftIn | rfl
    · rcases rightIn with rightIn | rfl
      · exact once left leftIn right rightIn sameListing sameCursor
      exact absurd sameCursor (unused left leftIn sameListing)
    · rcases rightIn with rightIn | rfl
      · exact absurd sameCursor.symm (unused right rightIn sameListing.symm)
      rfl

lemma Continues.resumes (continues : Continues issued listing offset total cursor issued') :
    (cursor = none ∧ total ≤ offset) ∨ (cursor ≠ none ∧ Resumes issued' listing offset cursor) := by
  cases continues with
  | done complete => exact .inl ⟨rfl, complete⟩
  | more cursor unused =>
    exact .inr ⟨Option.some_ne_none cursor, List.mem_append_right _ List.mem_cons_self⟩

end

/-! ## The state of a scan -/

def Opened (queue : List QueueEntry) (done : List (String × String)) (workspaceId parentId : String) :
    Prop :=
  (workspaceId, parentId) ∈ done
    ∨ ∃ entry ∈ queue, entry.workspaceId = workspaceId ∧ entry.parentId = parentId

def SeenIn (items : Items) (sourceId : Uuid) (generation : Nat) (record : NodeRecord) : Prop :=
  ∃ item, items.get? (sourceId, record.nodeId) = some item ∧ item.seenGeneration = generation
    ∧ item.kind = record.kind

def Explored (items : Items) (sourceId : Uuid) (generation : Nat) (queue : List QueueEntry)
    (done : List (String × String)) (records : List NodeRecord) : Prop :=
  ∀ record ∈ records, SeenIn items sourceId generation record ∧
    (record.hasChildren = true → Opened queue done record.workspaceId record.nodeId)

structure Scanning (forest : Forest) (issued : List Issued) (sourceId : Uuid) (generation : Nat)
    (state : ScanState) (items : Items) (done : List (String × String)) : Prop where
  workspaces : ∃ offset, (state.stage = .workspaces → Resumes issued .workspaces offset state.cursor) ∧
    (state.stage ≠ .workspaces → forest.workspaces.length ≤ offset) ∧
    ∀ record ∈ forest.workspaces.take offset,
      Opened state.queue done record.workspaceId record.rootNodeId
  queued : ∀ entry ∈ state.queue, forest.Listed entry.workspaceId entry.parentId entry.depth ∧
    ∃ offset, Resumes issued (.nodes entry.workspaceId entry.parentId) offset entry.cursor ∧
      Explored items sourceId generation state.queue done
        ((forest.children entry.workspaceId entry.parentId).take offset)
  finished : ∀ listing ∈ done, Explored items sourceId generation state.queue done
    (forest.children listing.1 listing.2)
  reached : ∀ nodeId item, items.get? (sourceId, nodeId) = some item →
    item.seenGeneration = generation →
      ∃ record, forest.Reaches record ∧ record.nodeId = nodeId ∧ record.kind = item.kind
  closed : state.stage = .read → state.queue = []

lemma Scanning.complete {forest : Forest} {issued : List Issued} {sourceId : Uuid}
    {generation : Nat} {state : ScanState} {items : Items} {done : List (String × String)}
    (scanning : Scanning forest issued sourceId generation state items done)
    (stage : state.stage = .read) {record : NodeRecord} (reaches : forest.Reaches record) :
    SeenIn items sourceId generation record := by
  have empty := scanning.closed stage
  have opened : ∀ {workspaceId parentId : String}, Opened state.queue done workspaceId parentId →
      (workspaceId, parentId) ∈ done := by
    rintro workspaceId parentId (explored | ⟨entry, mem, _⟩)
    · exact explored
    · rw [empty] at mem
      cases mem
  have listed : ∀ {workspaceId parentId : String} {depth : Nat},
      forest.Listed workspaceId parentId depth → (workspaceId, parentId) ∈ done := by
    intro workspaceId parentId depth listing
    induction listing with
    | root record mem =>
      obtain ⟨offset, _, closing, roots⟩ := scanning.workspaces
      have full : forest.workspaces.take offset = forest.workspaces :=
        List.take_of_length_le (closing (by rw [stage]; decide))
      exact opened (roots record (by rw [full]; exact mem))
    | child record parent mem children ih =>
      exact opened ((scanning.finished _ ih record mem).2 children)
  obtain ⟨workspaceId, parentId, depth, listing, mem⟩ := reaches
  exact (scanning.finished _ (listed listing) record mem).1

/-- A page as its cursors stand for offsets now. -/
inductive Served (forest : Forest) (issued : List Issued) : Payload → Page → Option String → Prop
  | workspaces {former cursor : Option String} (offset size : Nat)
      (resumes : Resumes issued .workspaces offset former)
      (next : (cursor = none ∧ forest.workspaces.length ≤ offset + size)
        ∨ (cursor ≠ none ∧ Resumes issued .workspaces (offset + size) cursor)) :
      Served forest issued (.workspaces former)
        (.workspaces ((forest.workspaces.drop offset).take size)) cursor
  | nodes {workspaceId parentId : String} {former cursor : Option String} (offset size : Nat)
      (resumes : Resumes issued (.nodes workspaceId parentId) offset former)
      (next : (cursor = none ∧ (forest.children workspaceId parentId).length ≤ offset + size)
        ∨ (cursor ≠ none ∧ Resumes issued (.nodes workspaceId parentId) (offset + size) cursor)) :
      Served forest issued (.nodes workspaceId parentId former)
        (.nodes workspaceId parentId (((forest.children workspaceId parentId).drop offset).take size))
        cursor

section
variable {forest : Forest} {issued issued' : List Issued} {payload : Payload} {page : Page}
  {cursor : Option String}

lemma Serves.served (serves : Serves forest issued payload page cursor issued') :
    Served forest issued' payload page cursor := by
  cases serves with
  | workspaces offset size resumes continues =>
    exact .workspaces offset size (resumes.grow continues.grows) continues.resumes
  | nodes offset size resumes continues =>
    exact .nodes offset size (resumes.grow continues.grows) continues.resumes

lemma Served.grow (more : ∀ entry ∈ issued, entry ∈ issued')
    (served : Served forest issued payload page cursor) :
    Served forest issued' payload page cursor := by
  cases served with
  | workspaces offset size resumes next =>
    exact .workspaces offset size (resumes.grow more)
      (next.imp_right fun both => ⟨both.1, both.2.grow more⟩)
  | nodes offset size resumes next =>
    exact .nodes offset size (resumes.grow more)
      (next.imp_right fun both => ⟨both.1, both.2.grow more⟩)

end

/-- The call that the state of a scan asks for. -/
inductive Requests (state : ScanState) : Payload → Prop
  | workspaces (stage : state.stage = .workspaces) : Requests state (.workspaces state.cursor)
  | nodes (parent : QueueEntry) (rest : List QueueEntry) (stage : state.stage = .nodes)
      (queue : state.queue = parent :: rest) :
      Requests state (.nodes parent.workspaceId parent.parentId parent.cursor)

section
variable {items items' : Items} {sourceId : Uuid} {generation : Nat}
  {queue queue' : List QueueEntry} {done done' : List (String × String)}
  {records : List NodeRecord}

lemma Explored.mono (explored : Explored items sourceId generation queue done records)
    (seen : ∀ record, SeenIn items sourceId generation record →
      SeenIn items' sourceId generation record)
    (opened : ∀ workspaceId parentId, Opened queue done workspaceId parentId →
      Opened queue' done' workspaceId parentId) :
    Explored items' sourceId generation queue' done' records := by
  intro record mem
  obtain ⟨former, children⟩ := explored record mem
  exact ⟨seen record former, fun flagged => opened _ _ (children flagged)⟩

lemma Explored.append {later : List NodeRecord}
    (first : Explored items sourceId generation queue done records)
    (second : Explored items sourceId generation queue done later) :
    Explored items sourceId generation queue done (records ++ later) := by
  intro record mem
  rcases List.mem_append.1 mem with earlier | new
  · exact first record earlier
  exact second record new

lemma Explored.nil : Explored items sourceId generation queue done [] :=
  nofun

end

@[simp] lemma closeEnumeration_queue (state : ScanState) :
    (closeEnumeration state).queue = state.queue := by
  unfold closeEnumeration
  split <;> rfl

lemma closeEnumeration_stage (state : ScanState) :
    ((closeEnumeration state).stage = .read ∧ state.queue = [])
      ∨ ((closeEnumeration state).stage = state.stage ∧ state.queue ≠ []) := by
  unfold closeEnumeration
  split
  · next empty => exact .inl ⟨rfl, List.isEmpty_iff.1 empty⟩
  next full => exact .inr ⟨rfl, fun empty => full (List.isEmpty_iff.2 empty)⟩

section
variable {forest : Forest} {issued : List Issued} {source : KnowledgeSyncSource}
  {state state' : ScanState} {items items' : Items} {done : List (String × String)}

lemma pagedWorkspaces_queue {records : List WorkspaceRecord} {cursor : Option String} :
    (pagedWorkspaces state records cursor).queue = state.queue ++ records.map rootEntry := by
  unfold pagedWorkspaces
  cases cursor with
  | none => rw [if_neg (by simp), closeEnumeration_queue]
  | some text => rfl

lemma Scanning.pagedWorkspaces (once : IssuedOnce issued)
    (scanning : Scanning forest issued source.id source.generation state items done)
    (stage : state.stage = .workspaces) {cursor : Option String} {offset size : Nat}
    (resumes : Resumes issued .workspaces offset state.cursor)
    (next : (cursor = none ∧ forest.workspaces.length ≤ offset + size)
      ∨ (cursor ≠ none ∧ Resumes issued .workspaces (offset + size) cursor)) :
    Scanning forest issued source.id source.generation
      (pagedWorkspaces state ((forest.workspaces.drop offset).take size) cursor) items done := by
  set records := (forest.workspaces.drop offset).take size with recordsEq
  obtain ⟨former, resumesFormer, _, roots⟩ := scanning.workspaces
  have sameOffset : former = offset := (resumesFormer stage).unique once resumes
  subst sameOffset
  have grown : ∀ workspaceId parentId, Opened state.queue done workspaceId parentId →
      Opened (state.queue ++ records.map rootEntry) done workspaceId parentId := by
    rintro workspaceId parentId (explored | ⟨entry, mem, named⟩)
    · exact .inl explored
    · exact .inr ⟨entry, List.mem_append_left _ mem, named⟩
  have listed : ∀ record ∈ records, record ∈ forest.workspaces :=
    fun record mem => List.mem_of_mem_drop (List.mem_of_mem_take mem)
  have stageAfter : (cursor ≠ none ∧ (Sync.pagedWorkspaces state records cursor).stage = .workspaces
        ∧ (Sync.pagedWorkspaces state records cursor).cursor = cursor)
      ∨ (cursor = none ∧ (Sync.pagedWorkspaces state records cursor).stage ≠ .workspaces) := by
    cases cursor with
    | some text => exact .inl ⟨Option.some_ne_none text, stage, rfl⟩
    | none =>
      refine .inr ⟨rfl, ?_⟩
      unfold Sync.pagedWorkspaces
      rw [if_neg (by simp)]
      rcases closeEnumeration_stage _ with ⟨read, _⟩ | ⟨nodes, _⟩
      · rw [read]
        exact Stage.noConfusion
      rw [nodes]
      exact Stage.noConfusion
  refine ⟨⟨former + size, ?_, ?_, ?_⟩, ?_, ?_, scanning.reached, ?_⟩
  · intro still
    rcases stageAfter with ⟨some, _, eq⟩ | ⟨_, left⟩
    · rcases next with ⟨none, _⟩ | ⟨_, continues⟩
      · exact absurd none some
      rw [eq]
      exact continues
    · exact absurd still left
  · intro left
    rcases stageAfter with ⟨_, still, _⟩ | ⟨none, _⟩
    · exact absurd still left
    rcases next with ⟨_, complete⟩ | ⟨some, _⟩
    · exact complete
    exact absurd none some
  · intro record mem
    rw [pagedWorkspaces_queue]
    rw [List.take_add, List.mem_append] at mem
    rcases mem with earlier | new
    · exact grown _ _ (roots record earlier)
    exact .inr ⟨rootEntry record, List.mem_append_right _ (List.mem_map_of_mem new), rfl, rfl⟩
  · intro entry mem
    rw [pagedWorkspaces_queue] at mem ⊢
    rcases List.mem_append.1 mem with earlier | new
    · obtain ⟨listing, offset, continues, explored⟩ := scanning.queued entry earlier
      exact ⟨listing, offset, continues, explored.mono (fun _ seen => seen) grown⟩
    obtain ⟨record, recordIn, rfl⟩ := List.mem_map.1 new
    exact ⟨.root record (listed record recordIn), 0, rfl, Explored.nil⟩
  · intro listing mem
    rw [pagedWorkspaces_queue]
    exact (scanning.finished listing mem).mono (fun _ seen => seen) grown
  · intro read
    rcases stageAfter with ⟨_, still, _⟩ | ⟨rfl, _⟩
    · rw [read] at still
      cases still
    unfold Sync.pagedWorkspaces at read ⊢
    rw [if_neg (by simp)] at read ⊢
    rcases closeEnumeration_stage _ with ⟨_, empty⟩ | ⟨nodes, _⟩
    · rw [closeEnumeration_queue]
      exact empty
    rw [nodes] at read
    cases read

/-- What stays in the queue of the listing that a page continues. -/
def continued (active : QueueEntry) (cursor : Option String) : List QueueEntry :=
  if cursor.isSome then
    [{ active with cursor := cursor, seenCursors := active.seenCursors ++ cursor.toList }]
  else []

variable {active : QueueEntry} {rest : List QueueEntry}

lemma pagedNodes_queue {records : List NodeRecord} {cursor : Option String} :
    (pagedNodes state active rest records cursor).queue
      = continued active cursor ++ (rest ++ childEntries active.depth records) := by
  unfold pagedNodes continued
  cases cursor with
  | none => rw [if_neg (by simp), if_neg (by simp), closeEnumeration_queue, List.nil_append]
  | some text => rfl

lemma pagedNodes_stage {records : List NodeRecord} {cursor : Option String}
    (stage : state.stage = .nodes) : (pagedNodes state active rest records cursor).stage = .nodes ∨
      ((pagedNodes state active rest records cursor).stage = .read
        ∧ (pagedNodes state active rest records cursor).queue = []) := by
  unfold pagedNodes
  cases cursor with
  | some text => exact .inl stage
  | none =>
    rw [if_neg (by simp)]
    rcases closeEnumeration_stage _ with ⟨read, empty⟩ | ⟨kept, _⟩
    · exact .inr ⟨read, (closeEnumeration_queue _).trans empty⟩
    exact .inl (kept.trans stage)

lemma SeenIn.visitAll {depth : Nat} {records : List NodeRecord} {record : NodeRecord}
    (new : NewNodes source items depth records)
    (seen : SeenIn items source.id source.generation record) :
    SeenIn (visitAll source records items) source.id source.generation record := by
  obtain ⟨item, stored, generation, kind⟩ := seen
  refine ⟨item, ?_, generation, kind⟩
  rw [get?_visitAll_other, stored]
  intro other mem eq
  have sameNode : other.nodeId = record.nodeId := congrArg Prod.snd eq
  have unseen := new.unseen other mem
  rw [sameNode, seenNow_iff.2 ⟨item, stored, generation⟩] at unseen
  cases unseen

lemma Scanning.pagedNodes (once : IssuedOnce issued)
    (scanning : Scanning forest issued source.id source.generation state items done)
    (stage : state.stage = .nodes) (queue : state.queue = active :: rest) {cursor : Option String}
    {offset size : Nat}
    (resumes : Resumes issued (.nodes active.workspaceId active.parentId) offset active.cursor)
    (next : (cursor = none
        ∧ (forest.children active.workspaceId active.parentId).length ≤ offset + size)
      ∨ (cursor ≠ none
        ∧ Resumes issued (.nodes active.workspaceId active.parentId) (offset + size) cursor))
    {records : List NodeRecord} (page : records
      = ((forest.children active.workspaceId active.parentId).drop offset).take size)
    (new : NewNodes source items active.depth records) :
    ∃ done', Scanning forest issued source.id source.generation
      (pagedNodes state active rest records cursor) (visitAll source records items) done' := by
  obtain ⟨listing, former, resumesFormer, explored⟩ :=
    scanning.queued active (queue ▸ List.mem_cons_self)
  have sameOffset : former = offset := resumesFormer.unique once resumes
  subst sameOffset
  have inListing : ∀ record ∈ records, record ∈ forest.children active.workspaceId active.parentId := by
    intro record mem
    rw [page] at mem
    exact List.mem_of_mem_drop (List.mem_of_mem_take mem)
  let done' := if cursor.isSome then done else done ++ [(active.workspaceId, active.parentId)]
  have doneMore : ∀ listing ∈ done, listing ∈ done' := by
    intro listing mem
    simp only [done']
    split
    · exact mem
    exact List.mem_append_left _ mem
  -- the active listing stays queued or is done; everything else stays where it was
  have grown : ∀ workspaceId parentId, Opened state.queue done workspaceId parentId →
      Opened (Sync.pagedNodes state active rest records cursor).queue done' workspaceId parentId := by
    rintro workspaceId parentId (earlier | ⟨entry, mem, rfl, rfl⟩)
    · exact .inl (doneMore _ earlier)
    · rw [queue] at mem
      rw [pagedNodes_queue]
      rcases List.mem_cons.1 mem with rfl | inRest
      · cases cursor with
        | none => exact .inl (List.mem_append_right _ List.mem_cons_self)
        | some text => exact .inr ⟨_, List.mem_append_left _ List.mem_cons_self, rfl, rfl⟩
      · exact .inr ⟨entry, List.mem_append_right _ (List.mem_append_left _ inRest), rfl, rfl⟩
  have kept : ∀ {former : List NodeRecord},
      Explored items source.id source.generation state.queue done former →
      Explored (visitAll source records items) source.id source.generation
        (Sync.pagedNodes state active rest records cursor).queue done' former :=
    fun before => before.mono (fun _ seen => seen.visitAll new) grown
  have fresh : Explored (visitAll source records items) source.id source.generation
      (Sync.pagedNodes state active rest records cursor).queue done' records := by
    intro record mem
    refine ⟨⟨_, get?_visitAll new.distinct mem, rfl, rfl⟩, ?_⟩
    intro flagged
    refine .inr ⟨childEntry active.depth record, ?_, rfl, rfl⟩
    rw [pagedNodes_queue, childEntries]
    refine List.mem_append_right _ (List.mem_append_right _ (List.mem_map_of_mem ?_))
    exact List.mem_filter.2 ⟨mem, flagged⟩
  have upTo : Explored (visitAll source records items) source.id source.generation
      (Sync.pagedNodes state active rest records cursor).queue done'
      ((forest.children active.workspaceId active.parentId).take (former + size)) := by
    rw [List.take_add, ← page]
    exact (kept explored).append fresh
  have pastWorkspaces : state.stage ≠ .workspaces := by
    rw [stage]
    exact Stage.noConfusion
  refine ⟨done', ?_, ?_, ?_, ?_, ?_⟩
  · obtain ⟨offset, _, closing, roots⟩ := scanning.workspaces
    refine ⟨offset, ?_, fun _ => closing pastWorkspaces, fun record mem => grown _ _ (roots record mem)⟩
    intro back
    rcases pagedNodes_stage stage with eq | ⟨eq, _⟩
    all_goals
      rw [eq] at back
      cases back
  · intro entry mem
    rw [pagedNodes_queue] at mem
    rcases List.mem_append.1 mem with again | later
    · cases cursor with
      | none => cases again
      | some text =>
        rw [continued, Option.isSome_some, if_pos rfl, List.mem_singleton] at again
        subst again
        rcases next with ⟨none, _⟩ | ⟨_, continues⟩
        · cases none
        exact ⟨listing, former + size, continues, upTo⟩
    · rcases List.mem_append.1 later with inRest | child
      · obtain ⟨entryListing, offset, continues, before⟩ :=
          scanning.queued entry (queue ▸ List.mem_cons_of_mem _ inRest)
        exact ⟨entryListing, offset, continues, kept before⟩
      · obtain ⟨record, chosen, rfl⟩ := List.mem_map.1 child
        obtain ⟨inPage, flagged⟩ := List.mem_filter.1 chosen
        exact ⟨.child record listing (inListing record inPage) flagged, 0, rfl, Explored.nil⟩
  · intro explorable mem
    by_cases earlier : explorable ∈ done
    · exact kept (scanning.finished explorable earlier)
    simp only [done'] at mem
    split at mem
    · exact absurd mem earlier
    next last =>
    rcases List.mem_append.1 mem with inDone | active
    · exact absurd inDone earlier
    rw [List.mem_singleton] at active
    subst active
    rcases next with ⟨_, complete⟩ | ⟨some, _⟩
    · rw [List.take_of_length_le complete] at upTo
      exact upTo
    rw [Bool.not_eq_true, Option.isSome_eq_false_iff, Option.isNone_iff_eq_none] at last
    exact absurd last some
  · intro nodeId item stored generation
    by_cases inPage : nodeId ∈ records.map NodeRecord.nodeId
    · obtain ⟨record, mem, rfl⟩ := List.mem_map.1 inPage
      rw [get?_visitAll new.distinct mem] at stored
      cases stored
      exact ⟨record, ⟨_, _, _, listing, inListing record mem⟩, rfl, rfl⟩
    · rw [get?_visitAll_other] at stored
      · exact scanning.reached nodeId item stored generation
      · intro record mem eq
        have sameNode : record.nodeId = nodeId := congrArg Prod.snd eq
        exact inPage (sameNode ▸ List.mem_map_of_mem mem)
  · intro read
    rcases pagedNodes_stage stage with eq | ⟨_, empty⟩
    · rw [eq] at read
      cases read
    exact empty

end

end Obsion.Knowledge.Sync
