import Obsion.Base.Json
import Obsion.Lib.Closure
import Obsion.Lib.Table

/-! # Evidence lineage of a run

`runEvidenceLineage` follows replays, conversation sources and attached artifacts
from a run and collects the evidence on the way.  `Edge` and `Consistent` say
what it follows and what it insists on. -/

namespace Obsion.Knowledge.Publication

open Obsion.Lib

inductive EvidenceType
  | document
  | data
  | sql
  | metric
  | log
  | trace
  | code
  | git
  | deployment
  | config
  | tool
  deriving DecidableEq

structure Run where
  id : Uuid
  organizationId : Uuid
  replayOfRunId : Option Uuid
  plan : Json

structure RunConversationSnapshot where
  id : Uuid
  organizationId : Uuid
  runId : Uuid
  sourceRunId : Option Uuid

structure Evidence where
  id : Uuid
  organizationId : Uuid
  runId : Uuid
  evidenceType : EvidenceType
  source : String
  content : Fields
  lineage : Json

structure Artifact where
  id : Uuid
  organizationId : Uuid
  runId : Option Uuid

structure Provenance where
  runs : Table Run.id
  snapshots : Table RunConversationSnapshot.id
  evidence : Table Evidence.id
  artifacts : Table Artifact.id

def maxLineageRuns : Nat := 1000
def maxLineageEvidence : Nat := 10000

section
variable (uuid : Json → Option Uuid) (tables : Provenance) (organizationId : Uuid)

/-- `UUID(str(value.get(key)))`, where `uuid` is `UUID(str(...))` and `none` a
ValueError.  A value that is not an object raises AttributeError. -/
def recordedId (value : Json) (key : String) : Option Uuid :=
  value.fields?.bind fun fields => uuid ((fields.get? key).getD .null)

/-- `plan["conversation_source_run_ids"]` where the plan has it. -/
def recordedSources (plan : Json) : Option Json :=
  (plan.fields?.getD []).get? "conversation_source_run_ids"

/-! ## The traversal -/

def runRows (current : Finset Uuid) : List Run :=
  tables.runs.select fun row => row.organizationId = organizationId && row.id ∈ current

def snapshotRows (current : Finset Uuid) : List RunConversationSnapshot :=
  tables.snapshots.select fun row =>
    row.organizationId = organizationId && row.runId ∈ current && row.sourceRunId.isSome

def captured (snapshots : List RunConversationSnapshot) (runId : Uuid) : Finset Uuid :=
  ((snapshots.filter fun item => item.runId = runId).filterMap
    RunConversationSnapshot.sourceRunId).toFinset

def usedSources (plan : Json) (captured : Finset Uuid) : Option (Finset Uuid) :=
  match recordedSources plan with
  | none => some captured
  | some (.arr recorded) =>
    match recorded.mapM uuid with
    | none => none
    | some used => if used.toFinset ⊆ captured then some used.toFinset else none
  | some _ => none

def evidenceRows (current : Finset Uuid) : List Evidence :=
  tables.evidence.select fun row => row.organizationId = organizationId && row.runId ∈ current

def attachedArtifacts (evidence : List Evidence) : Option (List Uuid) :=
  (evidence.filter fun item => item.source = "workspace-artifact").mapM fun item =>
    recordedId uuid item.lineage "artifact_id"

def originRows (artifacts : Finset Uuid) : List Artifact :=
  tables.artifacts.select fun row => row.organizationId = organizationId && row.id ∈ artifacts

/-- One round of the loop: the next `pending` and the grown `result`. -/
def visit (current : Finset Uuid) (result : List Evidence) : Option (Finset Uuid × List Evidence) :=
  let rows := runRows tables organizationId current
  if (rows.map Run.id).toFinset ≠ current then none
  else
    let replays := (rows.filterMap Run.replayOfRunId).toFinset
    let snapshots := snapshotRows tables organizationId current
    match rows.mapM fun row => usedSources uuid row.plan (captured snapshots row.id) with
    | none => none
    | some used =>
      let evidence := (evidenceRows tables organizationId current).take
        (maxLineageEvidence - result.length + 1)
      if maxLineageEvidence < (result ++ evidence).length then none
      else
        match attachedArtifacts uuid evidence with
        | none => none
        | some artifacts =>
          let origins := originRows tables organizationId artifacts.toFinset
          if (origins.map Artifact.id).toFinset ≠ artifacts.toFinset then none
          else some (replays ∪ used.foldr (· ∪ ·) ∅ ∪
            (origins.filterMap Artifact.runId).toFinset, result ++ evidence)

def runEvidenceLineage (runId : Uuid) : Option (List Evidence) :=
  explore (visit uuid tables organizationId) maxLineageRuns {runId} ∅ []

/-- A conversation snapshot of the run holds a turn of the origin. -/
def Captured (runId origin : Uuid) : Prop :=
  ∃ snapshot ∈ tables.snapshots, snapshot.organizationId = organizationId ∧
    snapshot.runId = runId ∧ snapshot.sourceRunId = some origin

inductive Edge : Uuid → Uuid → Prop
  | replay {row : Run} {origin : Uuid} (stored : row ∈ tables.runs)
      (owned : row.organizationId = organizationId) (replays : row.replayOfRunId = some origin) :
      Edge row.id origin
  | captured {row : Run} {origin : Uuid} (stored : row ∈ tables.runs)
      (owned : row.organizationId = organizationId) (unrecorded : recordedSources row.plan = none)
      (capture : Captured tables organizationId row.id origin) : Edge row.id origin
  | used {row : Run} {origin : Uuid} {recorded : List Json} {value : Json}
      (stored : row ∈ tables.runs) (owned : row.organizationId = organizationId)
      (records : recordedSources row.plan = some (.arr recorded)) (listed : value ∈ recorded)
      (names : uuid value = some origin) : Edge row.id origin
  | attachment {item : Evidence} {artifact : Artifact} {origin : Uuid}
      (stored : item ∈ tables.evidence) (owned : item.organizationId = organizationId)
      (attached : item.source = "workspace-artifact")
      (names : recordedId uuid item.lineage "artifact_id" = some artifact.id)
      (kept : artifact ∈ tables.artifacts) (artifactOwned : artifact.organizationId = organizationId)
      (made : artifact.runId = some origin) : Edge item.runId origin

/-- The run exists, its recorded sources are a list of captured ones, and its
attachments name artifacts of the organization. -/
structure Consistent (runId : Uuid) : Prop where
  resolved : ∃ row ∈ tables.runs, row.organizationId = organizationId ∧ row.id = runId
  sources : ∀ row ∈ tables.runs, row.organizationId = organizationId → row.id = runId →
    ∀ recorded, recordedSources row.plan = some recorded → ∃ values, recorded = .arr values ∧
      ∀ value ∈ values, ∃ origin, uuid value = some origin ∧ Captured tables organizationId runId origin
  attachments : ∀ item ∈ tables.evidence, item.organizationId = organizationId →
    item.runId = runId → item.source = "workspace-artifact" →
      ∃ artifact ∈ tables.artifacts, artifact.organizationId = organizationId ∧
        recordedId uuid item.lineage "artifact_id" = some artifact.id

def Collectable (runs : Finset Uuid) : Prop :=
  (∀ runId ∈ runs, Consistent uuid tables organizationId runId) ∧
    (evidenceRows tables organizationId runs).length ≤ maxLineageEvidence

end

/-! ## One round -/

section
variable {uuid : Json → Option Uuid} {tables : Provenance} {organizationId : Uuid}
  {seen current : Finset Uuid} {result : List Evidence}

variable {row : Run} {artifacts used : Finset Uuid} {plan : Json} {items : List Evidence}

lemma mem_runRows : row ∈ runRows tables organizationId current ↔
    row ∈ tables.runs ∧ row.organizationId = organizationId ∧ row.id ∈ current := by
  simp [runRows]

lemma mem_evidenceRows {item : Evidence} : item ∈ evidenceRows tables organizationId current ↔
    item ∈ tables.evidence ∧ item.organizationId = organizationId ∧ item.runId ∈ current := by
  simp [evidenceRows]

lemma mem_originRows {artifact : Artifact} :
    artifact ∈ originRows tables organizationId artifacts ↔ artifact ∈ tables.artifacts ∧
      artifact.organizationId = organizationId ∧ artifact.id ∈ artifacts := by
  simp [originRows]

variable {runId origin : Uuid} {next : Finset Uuid} {later : List Evidence}

lemma mem_captured (level : runId ∈ current) :
    origin ∈ captured (snapshotRows tables organizationId current) runId ↔
      Captured tables organizationId runId origin := by
  simp only [captured, snapshotRows, List.mem_toFinset, List.mem_filterMap, List.mem_filter,
    Table.mem_select, Bool.and_eq_true, decide_eq_true_eq, Captured]
  constructor
  · rintro ⟨snapshot, ⟨⟨stored, ⟨owned, _⟩, _⟩, ofRun⟩, named⟩
    exact ⟨snapshot, stored, owned, ofRun, named⟩
  rintro ⟨snapshot, stored, owned, ofRun, named⟩
  refine ⟨snapshot, ⟨⟨stored, ⟨owned, ofRun ▸ level⟩, ?_⟩, ofRun⟩, named⟩
  rw [named, Option.isSome_some]

lemma mem_mapM_some {α β : Type} {f : α → Option β} {items : List α} {made : List β}
    (run : items.mapM f = some made) :
    (∀ value, value ∈ made ↔ ∃ item ∈ items, f item = some value) ∧
      ∀ item ∈ items, ∃ value, f item = some value := by
  induction items generalizing made with
  | nil =>
    cases run
    simp
  | cons first rest ih =>
    rw [List.mapM_cons] at run
    obtain ⟨value, firstRun, run⟩ := Option.bind_eq_some_iff.1 run
    obtain ⟨values, restRun, run⟩ := Option.bind_eq_some_iff.1 run
    cases run
    obtain ⟨members, defined_⟩ := ih restRun
    constructor
    · intro other
      rw [List.mem_cons, members, List.exists_mem_cons_iff, firstRun, Option.some.injEq]
      exact or_congr_left eq_comm
    · intro item mem
      rcases List.mem_cons.1 mem with rfl | later
      · exact ⟨value, firstRun⟩
      exact defined_ item later

lemma exists_of_mapM_none {α β : Type} {f : α → Option β} {items : List α}
    (run : items.mapM f = none) : ∃ item ∈ items, f item = none := by
  induction items with
  | nil => cases run
  | cons first rest ih =>
    cases firstRun : f first with
    | none => exact ⟨first, List.mem_cons_self, firstRun⟩
    | some value =>
      cases restRun : rest.mapM f with
      | none =>
        obtain ⟨item, mem, failed⟩ := ih restRun
        exact ⟨item, List.mem_cons_of_mem _ mem, failed⟩
      | some values =>
        rw [List.mapM_cons, firstRun, restRun] at run
        cases run

/-- The recorded sources of a plan are a list of ids among the captured ones. -/
def Recorded (uuid : Json → Option Uuid) (captured : Finset Uuid) (recorded : Json) : Prop :=
  ∃ values, recorded = .arr values ∧ ∀ value ∈ values, ∃ origin, uuid value = some origin ∧
    origin ∈ captured

lemma usedSources_some {captured : Finset Uuid} (run : usedSources uuid plan captured = some used) :
    (∀ recorded, recordedSources plan = some recorded → Recorded uuid captured recorded) ∧
    ∀ origin, origin ∈ used ↔ (recordedSources plan = none ∧ origin ∈ captured) ∨
      ∃ values, recordedSources plan = some (.arr values) ∧
        ∃ value ∈ values, uuid value = some origin := by
  unfold usedSources at run
  split at run
  · next unrecorded =>
    cases run
    simp [unrecorded]
  · next values records =>
    split at run
    · cases run
    next parsed values' =>
    split at run
    · next within =>
      cases run
      obtain ⟨members, defined_⟩ := mem_mapM_some values'
      constructor
      · intro recorded eq
        cases records.symm.trans eq
        refine ⟨values, rfl, ?_⟩
        intro value mem
        obtain ⟨origin, named⟩ := defined_ value mem
        have listed : origin ∈ parsed := (members origin).2 ⟨value, mem, named⟩
        exact ⟨origin, named, within (List.mem_toFinset.2 listed)⟩
      · intro origin
        simp [records, members]
    · cases run
  · cases run

lemma usedSources_none {captured : Finset Uuid} (run : usedSources uuid plan captured = none) :
    ∃ recorded, recordedSources plan = some recorded ∧ ¬ Recorded uuid captured recorded := by
  unfold usedSources at run
  split at run
  · cases run
  · next values records =>
    refine ⟨_, records, ?_⟩
    rintro ⟨values', eq, sound⟩
    cases eq
    split at run
    · next failed =>
      obtain ⟨value, mem, unnamed⟩ := exists_of_mapM_none failed
      obtain ⟨origin, named, _⟩ := sound value mem
      rw [unnamed] at named
      cases named
    · next parsed parsed' =>
      split at run
      · cases run
      next outside =>
      refine outside ?_
      intro origin listed
      obtain ⟨value, mem, named⟩ :=
        ((mem_mapM_some parsed').1 origin).1 (List.mem_toFinset.1 listed)
      obtain ⟨other, named', within⟩ := sound value mem
      rw [named] at named'
      cases named'
      exact within
  · next recorded notList records =>
    refine ⟨recorded, records, ?_⟩
    rintro ⟨values, eq, _⟩
    exact notList values eq

lemma evidenceRows_union (fresh : Disjoint seen current) :
    (evidenceRows tables organizationId (seen ∪ current)).Perm
      (evidenceRows tables organizationId seen ++ evidenceRows tables organizationId current) := by
  unfold evidenceRows Table.select
  induction tables.evidence.rows with
  | nil => exact .nil
  | cons item rest ih =>
    by_cases owned : item.organizationId = organizationId
    · by_cases old : item.runId ∈ seen
      · have apart : item.runId ∉ current := Finset.disjoint_left.1 fresh old
        simpa [List.filter_cons, owned, old, apart] using ih
      by_cases new : item.runId ∈ current
      · simpa [List.filter_cons, owned, old, new] using (ih.cons item).trans List.perm_middle.symm
      simpa [List.filter_cons, owned, old, new] using ih
    · simpa [List.filter_cons, owned] using ih

lemma mem_unions {levels : List (Finset Uuid)} :
    origin ∈ levels.foldr (· ∪ ·) ∅ ↔ ∃ level ∈ levels, origin ∈ level := by
  induction levels with
  | nil => simp
  | cons first rest ih => simp [ih]

lemma resolved_iff : ((runRows tables organizationId current).map Run.id).toFinset = current ↔
    ∀ runId ∈ current, ∃ row ∈ tables.runs, row.organizationId = organizationId ∧ row.id = runId := by
  constructor
  · intro eq runId level
    rw [← eq, List.mem_toFinset, List.mem_map] at level
    obtain ⟨row, mem, rfl⟩ := level
    obtain ⟨stored, owned, _⟩ := mem_runRows.1 mem
    exact ⟨row, stored, owned, rfl⟩
  · intro resolved
    ext runId
    rw [List.mem_toFinset, List.mem_map]
    constructor
    · rintro ⟨row, mem, rfl⟩
      exact (mem_runRows.1 mem).2.2
    intro level
    obtain ⟨row, stored, owned, rfl⟩ := resolved runId level
    exact ⟨row, mem_runRows.2 ⟨stored, owned, level⟩, rfl⟩

lemma origins_iff :
    ((originRows tables organizationId artifacts).map Artifact.id).toFinset = artifacts ↔
      ∀ artifactId ∈ artifacts, ∃ artifact ∈ tables.artifacts,
        artifact.organizationId = organizationId ∧ artifact.id = artifactId := by
  constructor
  · intro eq artifactId listed
    rw [← eq, List.mem_toFinset, List.mem_map] at listed
    obtain ⟨artifact, mem, rfl⟩ := listed
    obtain ⟨stored, owned, _⟩ := mem_originRows.1 mem
    exact ⟨artifact, stored, owned, rfl⟩
  · intro resolved
    ext artifactId
    rw [List.mem_toFinset, List.mem_map]
    constructor
    · rintro ⟨artifact, mem, rfl⟩
      exact (mem_originRows.1 mem).2.2
    intro listed
    obtain ⟨artifact, stored, owned, rfl⟩ := resolved artifactId listed
    exact ⟨artifact, mem_originRows.2 ⟨stored, owned, listed⟩, rfl⟩

lemma source_iff (mem : row ∈ runRows tables organizationId current)
    (run : usedSources uuid row.plan
      (captured (snapshotRows tables organizationId current) row.id) = some used) :
    origin ∈ used ↔ (recordedSources row.plan = none ∧ Captured tables organizationId row.id origin) ∨
      ∃ values, recordedSources row.plan = some (.arr values) ∧
        ∃ value ∈ values, uuid value = some origin := by
  rw [(usedSources_some run).2, mem_captured (mem_runRows.1 mem).2.2]

lemma attached_iff {evidence : List Evidence} {artifacts : List Uuid}
    (run : attachedArtifacts uuid evidence = some artifacts) :
    (∀ artifactId, artifactId ∈ artifacts ↔ ∃ item ∈ evidence, item.source = "workspace-artifact" ∧
      recordedId uuid item.lineage "artifact_id" = some artifactId) ∧
    ∀ item ∈ evidence, item.source = "workspace-artifact" →
      ∃ artifactId, recordedId uuid item.lineage "artifact_id" = some artifactId := by
  obtain ⟨members, defined_⟩ := mem_mapM_some run
  constructor
  · intro artifactId
    rw [members]
    simp [and_assoc]
  · intro item mem attached
    exact defined_ item (List.mem_filter.2 ⟨mem, decide_eq_true attached⟩)

structure Round (uuid : Json → Option Uuid) (tables : Provenance) (organizationId : Uuid)
    (current : Finset Uuid) (result : List Evidence) (next : Finset Uuid) (later : List Evidence)
    where
  used : List (Finset Uuid)
  artifacts : List Uuid
  resolved : ((runRows tables organizationId current).map Run.id).toFinset = current
  sources : ((runRows tables organizationId current).mapM fun row => usedSources uuid row.plan
    (captured (snapshotRows tables organizationId current) row.id)) = some used
  fits : (result ++ evidenceRows tables organizationId current).length ≤ maxLineageEvidence
  attached : attachedArtifacts uuid (evidenceRows tables organizationId current) = some artifacts
  origins : ((originRows tables organizationId artifacts.toFinset).map Artifact.id).toFinset
    = artifacts.toFinset
  followed : next = ((runRows tables organizationId current).filterMap Run.replayOfRunId).toFinset
    ∪ used.foldr (· ∪ ·) ∅ ∪
      ((originRows tables organizationId artifacts.toFinset).filterMap Artifact.runId).toFinset
  grown : later = result ++ evidenceRows tables organizationId current

lemma take_within (small : result.length ≤ maxLineageEvidence) :
    (result ++ items.take (maxLineageEvidence - result.length + 1)).length ≤ maxLineageEvidence ↔
      (result ++ items).length ≤ maxLineageEvidence := by
  simp only [List.length_append, List.length_take]
  omega

lemma take_all (fits : (result ++ items).length ≤ maxLineageEvidence) :
    items.take (maxLineageEvidence - result.length + 1) = items := by
  apply List.take_of_length_le
  rw [List.length_append] at fits
  omega

lemma visit_some (small : result.length ≤ maxLineageEvidence)
    (run : visit uuid tables organizationId current result = some (next, later)) :
    Nonempty (Round uuid tables organizationId current result next later) := by
  rw [visit] at run
  dsimp only at run
  split at run
  · cases run
  next resolved =>
  split at run
  · cases run
  next used sources =>
  split at run
  · cases run
  next short =>
  have fits := (take_within small).1 (Nat.le_of_not_lt short)
  rw [take_all fits] at run
  split at run
  · cases run
  next artifacts attached =>
  split at run
  · cases run
  next origins =>
  cases run
  exact ⟨⟨used, artifacts, not_not.1 resolved, sources, fits, attached, not_not.1 origins, rfl, rfl⟩⟩

lemma visit_none (run : visit uuid tables organizationId current result = none)
    (consistent : ∀ runId ∈ current, Consistent uuid tables organizationId runId) :
    maxLineageEvidence < (result ++ evidenceRows tables organizationId current).length := by
  have resolved := resolved_iff.2 fun runId level => (consistent runId level).resolved
  by_contra within
  have fits := Nat.le_of_not_lt within
  rw [visit] at run
  dsimp only at run
  rw [if_neg (not_not.2 resolved)] at run
  split at run
  · next failed =>
    obtain ⟨row, mem, failed⟩ := exists_of_mapM_none failed
    obtain ⟨recorded, records, unsound⟩ := usedSources_none failed
    obtain ⟨stored, owned, level⟩ := mem_runRows.1 mem
    obtain ⟨values, eq, sound⟩ := (consistent row.id level).sources row stored owned rfl recorded
      records
    refine unsound ⟨values, eq, ?_⟩
    intro value listed
    obtain ⟨origin, named, capture⟩ := sound value listed
    exact ⟨origin, named, (mem_captured level).2 capture⟩
  · next used sources =>
    rw [take_all fits, if_neg within] at run
    split at run
    · next failed =>
      obtain ⟨item, mem, unnamed⟩ := exists_of_mapM_none failed
      obtain ⟨mem, attached⟩ := List.mem_filter.1 mem
      obtain ⟨stored, owned, level⟩ := mem_evidenceRows.1 mem
      obtain ⟨artifact, _, _, named⟩ := (consistent item.runId level).attachments item stored owned
        rfl (of_decide_eq_true attached)
      rw [unnamed] at named
      cases named
    · next artifacts attached =>
      split at run
      · next unresolved =>
        refine unresolved (origins_iff.2 ?_)
        intro artifactId listed
        obtain ⟨item, mem, isAttachment, names⟩ :=
          ((attached_iff attached).1 artifactId).1 (List.mem_toFinset.1 listed)
        obtain ⟨stored, owned, level⟩ := mem_evidenceRows.1 mem
        obtain ⟨artifact, kept, artifactOwned, named⟩ := (consistent item.runId level).attachments
          item stored owned rfl isAttachment
        rw [names] at named
        exact ⟨artifact, kept, artifactOwned, (Option.some.inj named).symm⟩
      · cases run

lemma Round.consistent (round : Round uuid tables organizationId current result next later)
    (level : runId ∈ current) : Consistent uuid tables organizationId runId where
  resolved := resolved_iff.1 round.resolved runId level
  sources := by
    rintro row stored owned rfl recorded records
    have mem := mem_runRows.2 ⟨stored, owned, level⟩
    obtain ⟨used, run⟩ := (mem_mapM_some round.sources).2 row mem
    obtain ⟨values, eq, sound⟩ := (usedSources_some run).1 recorded records
    refine ⟨values, eq, ?_⟩
    intro value listed
    obtain ⟨origin, named, capture⟩ := sound value listed
    exact ⟨origin, named, (mem_captured level).1 capture⟩
  attachments := by
    rintro item stored owned rfl attached
    have mem := mem_evidenceRows.2 ⟨stored, owned, level⟩
    obtain ⟨listed, defined_⟩ := attached_iff round.attached
    obtain ⟨artifactId, names⟩ := defined_ item mem attached
    have among := (listed artifactId).2 ⟨item, mem, attached, names⟩
    obtain ⟨artifact, kept, artifactOwned, rfl⟩ :=
      origins_iff.1 round.origins artifactId (List.mem_toFinset.2 among)
    exact ⟨artifact, kept, artifactOwned, names⟩

lemma Round.successors (round : Round uuid tables organizationId current result next later)
    (origin : Uuid) :
    origin ∈ next ↔ ∃ runId ∈ current, Edge uuid tables organizationId runId origin := by
  obtain ⟨sources, used⟩ := mem_mapM_some round.sources
  obtain ⟨listed, _⟩ := attached_iff round.attached
  rw [round.followed, Finset.mem_union, Finset.mem_union, mem_unions, List.mem_toFinset,
    List.mem_toFinset, List.mem_filterMap, List.mem_filterMap]
  constructor
  · rintro ((⟨row, mem, replays⟩ | ⟨level, collected, within⟩) | ⟨artifact, mem, made⟩)
    · obtain ⟨stored, owned, level⟩ := mem_runRows.1 mem
      exact ⟨row.id, level, .replay stored owned replays⟩
    · obtain ⟨row, mem, run⟩ := (sources level).1 collected
      obtain ⟨stored, owned, inLevel⟩ := mem_runRows.1 mem
      rcases (source_iff mem run).1 within with ⟨unrecorded, capture⟩ | ⟨values, records, value,
        valueIn, named⟩
      · exact ⟨row.id, inLevel, .captured stored owned unrecorded capture⟩
      exact ⟨row.id, inLevel, .used stored owned records valueIn named⟩
    · obtain ⟨kept, artifactOwned, among⟩ := mem_originRows.1 mem
      obtain ⟨item, itemIn, attached, names⟩ := (listed artifact.id).1 (List.mem_toFinset.1 among)
      obtain ⟨stored, owned, level⟩ := mem_evidenceRows.1 itemIn
      exact ⟨item.runId, level, .attachment stored owned attached names kept artifactOwned made⟩
  · rintro ⟨runId, level, edge⟩
    cases edge with
    | replay stored owned replays =>
      exact .inl (Or.inl ⟨_, mem_runRows.2 ⟨stored, owned, level⟩, replays⟩)
    | captured stored owned unrecorded capture =>
      have mem := mem_runRows.2 ⟨stored, owned, level⟩
      obtain ⟨level', run⟩ := used _ mem
      refine .inl (Or.inr ⟨level', (sources level').2 ⟨_, mem, run⟩, ?_⟩)
      exact (source_iff mem run).2 (Or.inl ⟨unrecorded, capture⟩)
    | used stored owned records valueIn named =>
      have mem := mem_runRows.2 ⟨stored, owned, level⟩
      obtain ⟨level', run⟩ := used _ mem
      refine .inl (Or.inr ⟨level', (sources level').2 ⟨_, mem, run⟩, ?_⟩)
      exact (source_iff mem run).2 (Or.inr ⟨_, records, _, valueIn, named⟩)
    | attachment stored owned attached names kept artifactOwned made =>
      have itemIn := mem_evidenceRows.2 ⟨stored, owned, level⟩
      have among := (listed _).2 ⟨_, itemIn, attached, names⟩
      exact .inr ⟨_, mem_originRows.2 ⟨kept, artifactOwned, List.mem_toFinset.2 among⟩, made⟩

/-- The collected evidence is that of the runs seen so far. -/
structure Collected (uuid : Json → Option Uuid) (tables : Provenance) (organizationId : Uuid)
    (seen : Finset Uuid) (result : List Evidence) : Prop where
  exact_ : result.Perm (evidenceRows tables organizationId seen)
  collectable : Collectable uuid tables organizationId seen

lemma Collected.small (collected : Collected uuid tables organizationId seen result) :
    result.length ≤ maxLineageEvidence := by
  rw [collected.exact_.length_eq]
  exact collected.collectable.2

lemma Collected.length_union (collected : Collected uuid tables organizationId seen result)
    (fresh : Disjoint seen current) : (result ++ evidenceRows tables organizationId current).Perm
      (evidenceRows tables organizationId (seen ∪ current)) :=
  (collected.exact_.append_right _).trans (evidenceRows_union fresh).symm

lemma collectable_mono {small large : Finset Uuid} (within : small ⊆ large)
    (collectable : Collectable uuid tables organizationId large) :
    Collectable uuid tables organizationId small := by
  refine ⟨fun runId mem => collectable.1 runId (within mem), ?_⟩
  have sub : (evidenceRows tables organizationId small).Sublist
      (evidenceRows tables organizationId large) := by
    apply List.monotone_filter_right
    intro item chosen
    simp only [Bool.and_eq_true, decide_eq_true_eq] at chosen ⊢
    exact ⟨chosen.1, within chosen.2⟩
  exact sub.length_le.trans collectable.2

lemma visits : Visits (Edge uuid tables organizationId) (Collectable uuid tables organizationId)
    (Collected uuid tables organizationId) (visit uuid tables organizationId) where
  inherited := collectable_mono
  admitted := Collected.collectable
  taken := by
    intro seen current result next later collected fresh run
    obtain ⟨round⟩ := visit_some collected.small run
    have grown := collected.length_union fresh
    refine ⟨⟨round.grown ▸ grown, ?_, ?_⟩, round.successors⟩
    · intro runId mem
      rcases Finset.mem_union.1 mem with old | level
      · exact collected.collectable.1 runId old
      exact round.consistent level
    · rw [← grown.length_eq]
      exact round.fits
  refused := by
    rintro seen current result collected fresh run ⟨consistent, fits⟩
    have excess := visit_none run fun runId level => consistent runId (Finset.mem_union_right _ level)
    rw [(collected.length_union fresh).length_eq] at excess
    omega

lemma collected_empty : Collected uuid tables organizationId ∅ [] := by
  have none_ : evidenceRows tables organizationId ∅ = [] := by
    simp [evidenceRows, Table.select]
  refine ⟨none_ ▸ .nil, ?_, ?_⟩
  · intro runId mem
    exact absurd mem (Finset.notMem_empty runId)
  rw [none_]
  exact Nat.zero_le _

def Lineage (uuid : Json → Option Uuid) (tables : Provenance) (organizationId runId : Uuid) :
    Finset Uuid → Prop :=
  Admissible (Edge uuid tables organizationId) (Collectable uuid tables organizationId)
    maxLineageRuns runId

lemma runEvidenceLineage_some
    (run : runEvidenceLineage uuid tables organizationId runId = some result) :
    ∃ runs, Lineage uuid tables organizationId runId runs ∧
      result.Perm (evidenceRows tables organizationId runs) := by
  obtain ⟨runs, admissible, collected⟩ := explore_start_some visits collected_empty run
  exact ⟨runs, admissible, collected.exact_⟩

lemma runEvidenceLineage_none_iff : runEvidenceLineage uuid tables organizationId runId = none ↔
      ¬ ∃ runs, Lineage uuid tables organizationId runId runs :=
  explore_start_none_iff visits collected_empty

lemma nodup_evidenceRows : (evidenceRows tables organizationId current).Nodup :=
  (List.Nodup.of_map _ tables.evidence.unique).filter _

end

end Obsion.Knowledge.Publication
