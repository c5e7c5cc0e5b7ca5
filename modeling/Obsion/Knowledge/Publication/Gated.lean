import Obsion.Knowledge.Publication.Guard

/-! # Only readable references are published -/

namespace Obsion.Knowledge.Publication

open Obsion.Lib

section
variable {uuid : Json → Option Uuid} {policy : ResourcePolicyInput → DecisionEffect}
  {external : Reader → Document → Bool} {world : World} {principal : Principal}
  {request : CheckRequest} {evidence : List Evidence}

/-! ## Indexed documents -/

variable {organizationId : Uuid} {item : Evidence} {reference : Fields} {version : Int}

lemma Indexed.among {wanted : List Uuid} (indexed : Indexed uuid world organizationId item)
    (within : ∀ versionId, capabilityVersionId uuid item = some versionId → versionId ∈ wanted) :
    ∃ versionId ∈ indexedVersions world organizationId wanted,
      capabilityVersionId uuid item = some versionId := by
  obtain ⟨version, stored, definition, definitionIn, owned, definitionOwned, eq, transport, named,
    recorded⟩ := indexed
  refine ⟨version.id, List.mem_map.2 ⟨version, List.mem_filter.2 ⟨?_, ?_⟩, rfl⟩, recorded⟩
  · rw [Table.mem_select]
    simp [stored, owned, transport, within version.id recorded]
  rw [List.any_eq_true]
  exact ⟨definition, definitionIn, by simp [eq, definitionOwned, named]⟩

lemma Indexed.mem_items (indexed : Indexed uuid world organizationId item)
    (mem : item ∈ evidence) (refers : reference ∈ indexedMetadata item) :
    reference ∈ indexedItems uuid world organizationId evidence := by
  have within : ∀ versionId, capabilityVersionId uuid item = some versionId →
      versionId ∈ evidence.filterMap (capabilityVersionId uuid) := by
    intro versionId recorded
    exact List.mem_filterMap.2 ⟨item, mem, recorded⟩
  obtain ⟨versionId, among, recorded⟩ := indexed.among within
  refine List.mem_flatMap.2 ⟨item, List.mem_filter.2 ⟨mem, ?_⟩, refers⟩
  rw [recorded, Option.any_some]
  exact decide_eq_true among

variable {named : Uuid} {current : Reader} {expectedCorpId : Option String} {body : DocumentBody}

lemma indexedReference_some (run : indexedReference uuid reference = some (named, version)) :
    documentId uuid reference = some named ∧ reference.get? "version" = some (.int version) := by
  unfold indexedReference at run
  split at run
  · next parsed recorded named' version' =>
    split at run
    · cases run
    cases run
    exact ⟨named', version'⟩
  · cases run

lemma indexAllowed_true
    (allowed : indexAllowed policy external world current request (named, version) = true) :
    ∃ document latest, getDocument (external current) current world.store.documents named
      = .ok (document, latest) ∧ version = latest.version := by
  simp only [indexAllowed, Bool.and_eq_true] at allowed
  obtain ⟨_, readable⟩ := allowed
  split at readable
  · cases readable
  next document latest found => exact ⟨document, latest, found, of_decide_eq_true readable⟩

lemma mem_sortedReferences {references : List (Uuid × Int)} {reference : Uuid × Int} :
    reference ∈ sortedReferences references ↔ reference ∈ references := by
  rw [sortedReferences, List.mem_mergeSort, List.mem_dedup]

lemma checkIndexedDocuments_true
    (passed : checkIndexedDocuments uuid policy external world principal evidence request
      = .ok true) (refers : reference ∈ indexedItems uuid world principal.organizationId evidence) :
    ReadableNow uuid external world principal reference := by
  unfold checkIndexedDocuments at passed
  dsimp only at passed
  split at passed
  · next clean =>
    obtain ⟨none_, valid⟩ := Bool.and_eq_true_iff.1 clean
    obtain ⟨parsed, read⟩ := Option.isSome_iff_exists.1 (List.all_eq_true.1 valid reference refers)
    have listed := List.mem_filterMap.2 ⟨reference, refers, read⟩
    rw [List.isEmpty_iff.1 none_] at listed
    cases listed
  · split at passed
    · cases passed
    next current loaded =>
    obtain ⟨valid, allowed⟩ := Bool.and_eq_true_iff.1 (Except.ok.inj passed)
    obtain ⟨⟨named, version⟩, read⟩ :=
      Option.isSome_iff_exists.1 (List.all_eq_true.1 valid reference refers)
    have listed := List.mem_filterMap.2 ⟨reference, refers, read⟩
    obtain ⟨document, latest, found, rfl⟩ :=
      indexAllowed_true (List.all_eq_true.1 allowed _ (mem_sortedReferences.2 listed))
    obtain ⟨names, recorded⟩ := indexedReference_some read
    exact ⟨current, named, document, latest, loaded, (loadPrincipalById_ok loaded).1, names, found,
      recorded⟩

lemma managedCurrent_true {reference : Reference} {document : Document} {version : DocumentVersion}
    (current : managedCurrent world principal expectedCorpId reference document version = true) :
    reference.version = .int version.version := by
  simp only [managedCurrent, Bool.and_eq_true] at current
  obtain ⟨⟨_, eq⟩, _⟩ := current
  split at eq
  · next recorded holds => rw [holds, of_decide_eq_true eq]
  cases eq

lemma revalidate_true {allowed : Bool} {selected : List Reference}
    (passed : revalidate external world principal current expectedCorpId allowed selected = true) :
    allowed = true ∧ ∀ reference ∈ selected, ∃ document version,
      getDocument (external current) current world.store.documents reference.documentId
        = .ok (document, version) ∧ reference.version = .int version.version := by
  induction selected generalizing allowed with
  | nil => exact ⟨passed, by simp⟩
  | cons first rest ih =>
    cases allowed with
    | false => cases passed
    | true =>
      rw [revalidate] at passed
      split at passed
      · cases passed
      next document version found =>
      obtain ⟨eq, later⟩ := ih passed
      refine ⟨rfl, ?_⟩
      intro reference mem
      rcases List.mem_cons.1 mem with rfl | inRest
      · exact ⟨document, version, found, managedCurrent_true eq⟩
      exact later reference inRest

lemma labelled_iff : labelled reference = true ↔
    reference.get? "source" = some (.str managedKnowledgeSource) := by
  unfold labelled
  split
  · next source labels =>
    rw [labels, decide_eq_true_eq]
    simp
  · next other =>
    simp only [Bool.false_eq_true, false_iff]
    exact other _

lemma reference?_some {read : Reference} (run : reference? uuid reference = some read) :
    documentId uuid reference = some read.documentId ∧
      read.version = (reference.get? "version").getD .null ∧ read.managed = labelled reference := by
  obtain ⟨named, names, rfl⟩ := Option.map_eq_some_iff.1 run
  exact ⟨names, rfl, rfl⟩

lemma mem_gated {provided : List world.Stored} {inherited : List Evidence}
    (stored : item ∈ world.provenance.evidence) (mem : item ∈ inherited) :
    item ∈ gated world provided inherited := by
  by_cases given : item.id ∈ provided.map fun item => item.val.id
  · obtain ⟨handed, handedIn, eq⟩ := List.mem_map.1 given
    have equal : handed.val = item := Table.eq_of_key handed.property stored eq
    exact List.mem_append_left _ (List.mem_map.2 ⟨handed, handedIn, equal⟩)
  · exact List.mem_append_right _ (List.mem_filter.2 ⟨mem, decide_eq_true given⟩)

lemma mem_bodyMetadata (mem : item ∈ evidence) (bodyIn : body ∈ documentBodies item) :
    body.metadata ∈ bodyMetadata evidence :=
  List.mem_map.2 ⟨body, List.mem_flatMap.2 ⟨item, mem, bodyIn⟩, rfl⟩

lemma valid_lineage {inherited : Option (List Evidence)} {metadata : List Fields}
    (valid : (inherited.isNone || metadata.any fun reference =>
      labelled reference && (documentId uuid reference).isNone) = false) :
    ∃ lineage, inherited = some lineage ∧
      ∀ reference ∈ metadata, labelled reference = true → (documentId uuid reference).isSome := by
  obtain ⟨known, named⟩ := Bool.or_eq_false_iff.1 valid
  obtain ⟨lineage, eq⟩ := Option.isSome_iff_exists.1 (Option.isNone_eq_false_iff.1 known)
  refine ⟨lineage, eq, ?_⟩
  intro reference mem label
  have absent := List.any_eq_false.1 named reference mem
  rw [label, Bool.true_and, Bool.not_eq_true, Option.isNone_eq_false_iff] at absent
  exact absent

lemma selected_of_managed (whole : ∀ reference ∈ bodyMetadata evidence, labelled reference = true →
      (documentId uuid reference).isSome)
    (mem : item ∈ evidence) (bodyIn : body ∈ documentBodies item)
    (managed : Managed uuid world organizationId body.metadata) :
    ∃ read, reference? uuid body.metadata = some read ∧
      read ∈ selectedReferences uuid world organizationId (bodyMetadata evidence) := by
  have refers := mem_bodyMetadata mem bodyIn
  rcases managed with label | ⟨document, stored, owned, isManaged, names⟩
  · have labels := labelled_iff.2 label
    obtain ⟨named, names⟩ := Option.isSome_iff_exists.1 (whole body.metadata refers labels)
    have read : reference? uuid body.metadata = some ⟨named, _, labelled body.metadata⟩ :=
      Option.map_eq_some_iff.2 ⟨named, names, rfl⟩
    refine ⟨_, read, List.mem_filter.2 ⟨List.mem_filterMap.2 ⟨_, refers, read⟩, ?_⟩⟩
    rw [labels, Bool.true_or]
  · have read : reference? uuid body.metadata = some ⟨document.id, _, labelled body.metadata⟩ :=
      Option.map_eq_some_iff.2 ⟨document.id, names, rfl⟩
    have listed := List.mem_filterMap.2 ⟨_, refers, read⟩
    refine ⟨_, read, List.mem_filter.2 ⟨listed, ?_⟩⟩
    rw [decide_eq_true, Bool.or_true]
    refine List.mem_map.2 ⟨document, Table.mem_select.2 ⟨stored, ?_⟩, rfl⟩
    have named := List.mem_map.2 ⟨_, listed, (rfl : Reference.documentId _ = document.id)⟩
    simp only [named, owned, isManaged, decide_true, Bool.and_self]

lemma getD_null_eq_int {recorded : Option Json} (eq : recorded.getD .null = .int version) :
    recorded = some (.int version) := by
  cases recorded with
  | none => cases eq
  | some value => exact congrArg some eq

lemma check_true {provided : List world.Stored}
    (passed : check uuid policy external world principal provided request = .ok true) :
    ∃ inherited, runEvidenceLineage uuid world.provenance principal.organizationId request.runId
        = some inherited ∧
      checkIndexedDocuments uuid policy external world principal (gated world provided inherited)
        request = .ok true ∧ ∀ item ∈ gated world provided inherited, ∀ body ∈ documentBodies item,
        Managed uuid world principal.organizationId body.metadata →
          ReadableNow uuid external world principal body.metadata := by
  unfold check at passed
  dsimp only at passed
  split at passed
  · cases passed
  next indexedCurrent indexRun =>
  split at passed
  · next clean =>
    obtain ⟨unselected, sound⟩ := Bool.and_eq_true_iff.1 clean
    obtain ⟨inherited, lineage, whole⟩ := valid_lineage (Bool.not_eq_true' _ ▸ sound)
    rw [lineage, Option.getD_some] at indexRun unselected whole
    refine ⟨inherited, lineage, Except.ok.inj passed ▸ indexRun, ?_⟩
    intro item mem body bodyIn managed
    obtain ⟨read, _, selected⟩ := selected_of_managed whole mem bodyIn managed
    rw [List.isEmpty_iff.1 unselected] at selected
    cases selected
  · split at passed
    · cases passed
    next current loaded =>
    obtain ⟨allowed, readable⟩ := revalidate_true (Except.ok.inj passed)
    simp only [Bool.and_eq_true] at allowed
    obtain ⟨⟨⟨⟨sound, indexed⟩, _⟩, _⟩, _⟩ := allowed
    obtain ⟨inherited, lineage, whole⟩ := valid_lineage (Bool.not_eq_true' _ ▸ sound)
    rw [lineage, Option.getD_some] at indexRun readable whole
    refine ⟨inherited, lineage, indexed ▸ indexRun, ?_⟩
    intro item mem body bodyIn managed
    obtain ⟨read, parsed, selected⟩ := selected_of_managed whole mem bodyIn managed
    obtain ⟨document, version, found, recorded⟩ := readable read selected
    obtain ⟨names, versioned, _⟩ := reference?_some parsed
    refine ⟨current, read.documentId, document, version, loaded, (loadPrincipalById_ok loaded).1,
      names, found, ?_⟩
    rw [versioned] at recorded
    exact getD_null_eq_int recorded

/-- The lineage is exact, and the gate opens only where every managed or indexed
reference of the lineage is readable now at its recorded version. -/
theorem publication_gated : (∀ runId,
      (∀ result, runEvidenceLineage uuid world.provenance principal.organizationId runId
          = some result → result.Nodup ∧
        ∃ runs, Lineage uuid world.provenance principal.organizationId runId runs ∧
          ∀ item, item ∈ result ↔ item ∈ world.provenance.evidence ∧
            item.organizationId = principal.organizationId ∧ item.runId ∈ runs) ∧
      (runEvidenceLineage uuid world.provenance principal.organizationId runId = none ↔
        ¬ ∃ runs, Lineage uuid world.provenance principal.organizationId runId runs)) ∧
    ∀ provided request, check uuid policy external world principal provided request = .ok true →
      ∃ inherited, runEvidenceLineage uuid world.provenance principal.organizationId request.runId
          = some inherited ∧
        ∀ item ∈ inherited, (∀ body ∈ documentBodies item,
            Managed uuid world principal.organizationId body.metadata →
              ReadableNow uuid external world principal body.metadata) ∧
          (Indexed uuid world principal.organizationId item → ∀ reference ∈ indexedMetadata item,
              ReadableNow uuid external world principal reference) := by
  refine ⟨fun runId => ⟨?_, runEvidenceLineage_none_iff⟩, ?_⟩
  · intro result run
    obtain ⟨runs, lineage, same⟩ := runEvidenceLineage_some run
    refine ⟨same.nodup_iff.2 nodup_evidenceRows, runs, lineage, ?_⟩
    intro item
    rw [same.mem_iff, mem_evidenceRows]
  · intro provided request passed
    obtain ⟨inherited, lineage, indexRun, managed⟩ := check_true passed
    refine ⟨inherited, lineage, ?_⟩
    intro item member
    obtain ⟨runs, _, same⟩ := runEvidenceLineage_some lineage
    have stored := (mem_evidenceRows.1 (same.mem_iff.1 member)).1
    have among : item ∈ gated world provided inherited := mem_gated stored member
    refine ⟨managed item among, ?_⟩
    intro indexed reference refers
    exact checkIndexedDocuments_true indexRun (indexed.mem_items among refers)

end

def sampleUuid (value : Json) : Option Uuid := value.str?.bind Uuid.parse?

def handbook : Document :=
  { sampleDocument with
    source := managedKnowledgeSource, acl := { sampleAcl with denyRoles := .empty } }

def handbookHit : Fields :=
  [("document_id", .str (sampleId 1).str), ("version", .int 1),
    ("source", .str managedKnowledgeSource), ("content", .str "Welcome")]

def handbookEvidence : Evidence where
  id := sampleId 6
  organizationId := sampleOrganization
  runId := sampleId 5
  evidenceType := .document
  source := "document-index"
  content := [("hits", .arr [.obj handbookHit])]
  lineage := .obj [("capability_version_id", .str (sampleId 7).str)]

def handbookWorld : World where
  provenance := {
    runs := ⟨[⟨sampleId 4, sampleOrganization, some (sampleId 5), .null⟩,
      ⟨sampleId 5, sampleOrganization, some (sampleId 4), .null⟩], by decide +kernel⟩
    snapshots := .empty, evidence := ⟨[handbookEvidence], by simp⟩
    artifacts := .empty }
  store := {
    sources := .empty, items := .empty
    documents := { sampleTables with documents := ⟨[handbook], by simp⟩ } }
  directory := {
    users := ⟨[⟨sampleId 0, sampleOrganization, "ada", none, true⟩], by simp⟩
    externals := by simp
    departments := .empty
    roles := ⟨[⟨sampleId 8, sampleOrganization, "reader", [.str "knowledge.read"]⟩], by simp⟩
    userRoles := ⟨[⟨sampleOrganization, sampleId 0, sampleId 8⟩], by simp⟩ }
  capabilities := ⟨[⟨sampleId 9, sampleOrganization, "knowledge.search"⟩], by simp⟩
  capabilityVersions := ⟨[⟨sampleId 7, sampleOrganization, sampleId 9, .internal⟩], by simp⟩

def handbookRequest : CheckRequest where
  runId := sampleId 4
  stage := "before_publication"
  expectedCorpId := none
  allowManaged := true
  linkPolicyRun := true

lemma handbook_published : check sampleUuid (fun _ => .allow) (fun _ _ => true) handbookWorld
    sampleReader.toPrincipal [] handbookRequest = .ok true := by
  decide +kernel

theorem publication_gated_handbook :
    ∃ inherited, runEvidenceLineage sampleUuid handbookWorld.provenance sampleOrganization
        (sampleId 4) = some inherited ∧
      ∀ item ∈ inherited, (∀ body ∈ documentBodies item,
          Managed sampleUuid handbookWorld sampleOrganization body.metadata →
            ReadableNow sampleUuid (fun _ _ => true) handbookWorld sampleReader.toPrincipal
              body.metadata) ∧
        (Indexed sampleUuid handbookWorld sampleOrganization item →
          ∀ reference ∈ indexedMetadata item,
            ReadableNow sampleUuid (fun _ _ => true) handbookWorld sampleReader.toPrincipal
              reference) :=
  publication_gated.2 [] handbookRequest handbook_published

end Obsion.Knowledge.Publication
