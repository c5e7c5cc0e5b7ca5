import Obsion.CodeIntelligence.Repositories

/-! # The two forms of the rule over repositories

`_authorized` decides over the access list of a repository, `repository_access_clause`
over its grants.  Every ingestion leaves a repository with the grants of its access list
and no others, so that the two forms decide alike in every state of every run. -/

namespace Obsion.CodeIntelligence

open Obsion.Lib
open Obsion.Events (Classification)
open Obsion.Knowledge (Acl Effect Reader Subject matched_iff mem_subjects low_iff subjectClause
  nodup_sortedSubjects subjects)

variable {organizationId repositoryId newId : Uuid} {acl : Acl} {library : Library} {limit : Nat}
  {hits : List SymbolHit} {request : RepositoryRequest}

lemma mem_grantRows {grant : CodeRepositoryGrant} :
    grant ∈ grantRows organizationId repositoryId acl ↔
      grant.toSubject ∈ subjects organizationId acl ∧ grant.organizationId = organizationId
        ∧ grant.repositoryId = repositoryId := by
  simp only [grantRows, List.mem_map, List.mem_insertionSort, List.mem_dedup]
  constructor
  · rintro ⟨subject, mem, rfl⟩
    exact ⟨mem, rfl, rfl⟩
  rintro ⟨mem, rfl, rfl⟩
  exact ⟨grant.toSubject, mem, rfl⟩

lemma grantRows_nodup :
    (grantRows organizationId repositoryId acl).Nodup :=
  nodup_sortedSubjects.map fun _ _ => congrArg CodeRepositoryGrant.toSubject

def Granted (grants : Table CodeRepositoryGrant.key) (repository : CodeRepository) : Prop :=
  ∀ grant, grant ∈ grants ∧ grant.repositoryId = repository.id ↔
    grant ∈ grantRows repository.organizationId repository.id repository.acl

lemma Granted.perm {grants : Table CodeRepositoryGrant.key} {repository : CodeRepository}
    (granted : Granted grants repository) :
    (grants.select fun grant => grant.repositoryId = repository.id).Perm
      (grantRows repository.organizationId repository.id repository.acl) := by
  have distinct : (grants.select fun grant => grant.repositoryId = repository.id).Nodup :=
    (List.Nodup.of_map _ grants.unique).filter _
  refine (List.perm_ext_iff_of_nodup distinct grantRows_nodup).2 fun grant => ?_
  rw [Table.mem_select, decide_eq_true_iff]
  exact granted grant

section
variable {principal : Reader} {grants : Table CodeRepositoryGrant.key} {repository : CodeRepository}
  (granted : Granted grants repository)
  (mem : repository.organizationId = principal.organizationId)
include granted mem

lemma grantExists_iff {effect : Effect} {clause : Subject → Bool} :
    grantExists principal grants.rows repository effect clause = true ↔
      ∃ subject ∈ subjects principal.organizationId repository.acl,
        subject.effect = effect ∧ clause subject = true := by
  unfold Granted at granted
  rw [mem] at granted
  simp only [grantExists, List.any_eq_true, Bool.and_eq_true, decide_eq_true_eq]
  constructor
  · rintro ⟨grant, stored, ⟨⟨⟨ofRepository, -⟩, effected⟩, holds⟩⟩
    have listed := mem_grantRows.1 ((granted grant).1 ⟨stored, ofRepository⟩)
    exact ⟨grant.toSubject, listed.1, effected, holds⟩
  · rintro ⟨subject, listed, effected, holds⟩
    let grant : CodeRepositoryGrant := ⟨subject, principal.organizationId, repository.id⟩
    obtain ⟨stored, ofRepository⟩ := (granted grant).2 (mem_grantRows.2 ⟨listed, rfl, rfl⟩)
    exact ⟨grant, stored, ⟨⟨⟨ofRepository, rfl⟩, effected⟩, holds⟩⟩

lemma deny_iff :
    grantExists principal grants.rows repository .deny (subjectClause principal false) = true ↔
      principal.named repository.acl.denyUsers repository.acl.denyRoles
        repository.acl.denyDepartments = true := by
  rw [grantExists_iff granted mem]
  apply matched_iff <;> simp [mem_subjects]

lemma directAllow_iff :
    grantExists principal grants.rows repository .allow (subjectClause principal false) = true ↔
      principal.named repository.acl.users repository.acl.roles
        repository.acl.departments = true := by
  rw [grantExists_iff granted mem]
  apply matched_iff <;> simp [mem_subjects]

lemma organizationGrant_iff : (grantExists principal grants.rows repository .allow fun grant =>
      decide (grant.subjectType = .organization)
        && decide (grant.subjectValue = principal.organizationId.str)) = true ↔
      repository.acl.organization = true := by
  rw [grantExists_iff granted mem]
  constructor
  · rintro ⟨⟨_, _, text⟩, listed, rfl, holds⟩
    simp only [Bool.and_eq_true, decide_eq_true_eq] at holds
    obtain ⟨rfl, rfl⟩ := holds
    simpa [mem_subjects] using listed
  · intro shared
    exact ⟨⟨.allow, .organization, principal.organizationId.str⟩, by simp [mem_subjects, shared],
      rfl, by simp⟩

omit granted mem in
lemma permission_eq : (!(permittedClassifications principal).isEmpty &&
      decide (repository.classification ∈ permittedClassifications principal)) =
        principal.can (readPermission repository.classification) := by
  have permitted : repository.classification ∈ permittedClassifications principal ↔
      principal.can (readPermission repository.classification) = true := by
    cases repository.classification <;> simp [permittedClassifications]
  rw [Bool.eq_iff_iff, ← permitted]
  cases listed : permittedClassifications principal <;> simp

lemma accessClause_agrees (kept : repository.deletedAt = none) :
    repositoryAccessClause principal grants.rows repository =
      authorized principal repository.classification repository.acl := by
  have deny := Bool.eq_iff_iff.2 (deny_iff granted mem)
  have allow := Bool.eq_iff_iff.2 (directAllow_iff granted mem)
  have shared := Bool.eq_iff_iff.2 (organizationGrant_iff granted mem)
  simp only [repositoryAccessClause, authorized, kept, permission_eq, deny, allow, shared, low_iff]
  cases principal.named repository.acl.denyUsers repository.acl.denyRoles
      repository.acl.denyDepartments <;>
    cases principal.named repository.acl.users repository.acl.roles repository.acl.departments <;>
    cases repository.acl.organization <;> simp

lemma accessClause_of_denied
    (denied : principal.named repository.acl.denyUsers repository.acl.denyRoles
      repository.acl.denyDepartments = true) :
    repositoryAccessClause principal grants.rows repository = false := by
  rw [repositoryAccessClause, (deny_iff granted mem).2 denied]
  simp

end

variable {database before after : Database} {graph : CodeGraph}

lemma mem_joined {row : Joined} (mem : row ∈ joined database graph) :
    row.repository ∈ database.repositories := by
  simp only [joined, List.mem_flatMap, List.mem_map] at mem
  obtain ⟨symbol, -, repository, selected, snapshot, -, source, -, rfl⟩ := mem
  exact (Table.mem_select.1 selected).1

lemma visible_of_searchSymbols {principal : Reader} {query : String}
    {repository qualifiedName : Option String}
    (run : searchSymbols library principal query repository qualifiedName limit database graph =
      .ok hits) : ∀ found ∈ hits, ∃ row ∈ database.repositories, row.id = found.repositoryId ∧
        repositoryAccessClause principal database.grants.rows row = true := by
  dsimp only [searchSymbols] at run
  split at run
  · cases run
  cases run
  intro found mem
  have listed := (List.mem_insertionSort _).1 (List.mem_of_mem_take mem)
  obtain ⟨row, taken, rfl⟩ := List.mem_map.1 listed
  obtain ⟨within, selected⟩ := List.mem_filter.1 (List.mem_of_mem_take taken)
  simp only [searchable, Bool.and_eq_true] at selected
  exact ⟨row.repository, mem_joined within, rfl, selected.1.1.2⟩

lemma visible_of_relatedSymbols {principal : Reader} {operation : GraphOperation} {symbol : String}
    {repository : Option String}
    (run : relatedSymbols library principal operation symbol repository limit database graph =
      .ok hits) : ∀ found ∈ hits, ∃ row ∈ database.repositories, row.id = found.repositoryId ∧
        repositoryAccessClause principal database.grants.rows row = true := by
  obtain ⟨origins, -, run⟩ := of_bind_ok run
  split at run
  · cases run
    exact nofun
  cases run
  intro found mem
  obtain ⟨⟨row, edge⟩, taken, rfl⟩ := List.mem_map.1 mem
  obtain ⟨source, within, paired⟩ := List.mem_flatMap.1 (List.mem_of_mem_take taken)
  obtain ⟨edge_, selected, eq⟩ := List.mem_map.1 paired
  cases eq
  have permitted := (List.mem_filter.1 selected).2
  simp only [Bool.and_eq_true] at permitted
  exact ⟨row.repository, mem_joined within, rfl, permitted.2⟩

/-! ## What ingestion keeps -/

structure Founded (database : Database) : Prop where
  granted : ∀ repository ∈ database.repositories, Granted database.grants repository
  owned : ∀ grant ∈ database.grants, ∃ repository ∈ database.repositories,
    repository.id = grant.repositoryId ∧ repository.organizationId = grant.organizationId

lemma replaceGrants_spec {repository : CodeRepository} {grants after : Table CodeRepositoryGrant.key}
    (owned : ∀ grant ∈ grants, grant.repositoryId = repository.id →
      grant.organizationId = repository.organizationId)
    (run : replaceGrants repository repository.organizationId grants = some after) :
    Granted after repository ∧
      ∀ grant, grant.repositoryId ≠ repository.id → (grant ∈ after ↔ grant ∈ grants) := by
  obtain ⟨-, rows⟩ := Table.insertAll?_spec run
  have members : ∀ grant, grant ∈ after ↔ (grant ∈ grants ∧ grant.repositoryId ≠ repository.id) ∨
      grant ∈ grantRows repository.organizationId repository.id repository.acl := by
    intro grant
    rw [Table.mem_iff, rows, List.mem_append, ← Table.mem_iff, Table.mem_delete]
    refine or_congr (and_congr_right fun stored => ?_) Iff.rfl
    rw [Bool.and_eq_false_iff, decide_eq_false_iff_not, decide_eq_false_iff_not]
    constructor
    · rintro (foreign | apart) eq
      · exact foreign (owned grant stored eq)
      · exact apart eq
    · exact .inr
  constructor
  · intro grant
    rw [members]
    constructor
    · rintro ⟨⟨-, apart⟩ | listed, eq⟩
      · exact absurd eq apart
      · exact listed
    · intro listed
      exact ⟨Or.inr listed, (mem_grantRows.1 listed).2.2⟩
  · intro grant apart
    rw [members]
    constructor
    · rintro (⟨stored, -⟩ | listed)
      · exact stored
      · exact absurd (mem_grantRows.1 listed).2.2 apart
    · exact fun stored => Or.inl ⟨stored, apart⟩

lemma upsertRepository_spec {principal : Reader} {repository : CodeRepository}
    (run : upsertRepository principal request newId before = .ok (after, repository)) :
    repository.organizationId = principal.organizationId ∧
      (∀ other ∈ after.repositories, other = repository ∨
        other ∈ before.repositories ∧ other.id ≠ repository.id) ∧
      (∀ other ∈ before.repositories, other.id = repository.id →
        other.organizationId = repository.organizationId) ∧
      (∀ other ∈ before.repositories, other.id ≠ repository.id → other ∈ after.repositories) ∧
      repository ∈ after.repositories ∧
      replaceGrants repository principal.organizationId before.grants = some after.grants := by
  unfold upsertRepository at run
  split at run
  · cases run
  split at run
  · cases run
  split at run
  · cases run
  next acl accepted =>
  split at run
  · cases run
  dsimp only at run
  split at run
  · next repositories grants stored replaced =>
    cases run
    cases found : before.repositories.rows.find? fun repository =>
        repository.organizationId = principal.organizationId &&
          repository.name = strip request.name with
    | none =>
      rw [found] at stored replaced
      obtain ⟨fresh, rows⟩ := Table.insert?_spec stored
      refine ⟨rfl, ?_, ?_, ?_, ?_, replaced⟩
      · intro other mem
        rw [Table.mem_iff, rows, List.mem_append, List.mem_singleton] at mem
        exact mem.symm.imp_right fun former => ⟨former, fresh other former⟩
      · exact fun other mem eq => absurd eq (fresh other mem)
      · intro other mem _
        rw [Table.mem_iff, rows]
        exact List.mem_append_left _ mem
      · rw [Table.mem_iff, rows]
        exact List.mem_append_right _ List.mem_cons_self
    | some former =>
      rw [found] at stored replaced
      cases stored
      have formerIn : former ∈ before.repositories := List.mem_of_find?_eq_some found
      have holds := List.find?_some found
      rw [Bool.and_eq_true, decide_eq_true_iff] at holds
      refine ⟨holds.1, ?_, ?_, ?_, Table.mem_put_self, replaced⟩
      · exact fun other mem => Table.mem_put.1 mem
      · intro other mem eq
        rw [Table.eq_of_key mem formerIn eq]
        rfl
      · exact fun other mem apart => Table.mem_put.2 (Or.inr ⟨mem, apart⟩)
  · cases run

lemma Granted.congr {grants after : Table CodeRepositoryGrant.key} {repository : CodeRepository}
    (eq : ∀ grant, grant.repositoryId = repository.id → (grant ∈ after ↔ grant ∈ grants))
    (granted : Granted grants repository) : Granted after repository := by
  intro grant
  rw [← granted grant]
  exact and_congr_left fun of_ => eq grant of_

lemma founded_upsertRepository {principal : Reader} {repository : CodeRepository}
    (founded : Founded before)
    (run : upsertRepository principal request newId before = .ok (after, repository)) :
    Founded after := by
  obtain ⟨organization, stored, keeps, others, mem, replaced⟩ := upsertRepository_spec run
  rw [← organization] at replaced
  have owned : ∀ grant ∈ before.grants, grant.repositoryId = repository.id →
      grant.organizationId = repository.organizationId := by
    intro grant grantIn eq
    obtain ⟨owner, ownerIn, named, of_⟩ := founded.owned grant grantIn
    rw [← of_]
    exact keeps owner ownerIn (named.trans eq)
  obtain ⟨granted, apart⟩ := replaceGrants_spec owned replaced
  constructor
  · intro other otherIn
    rcases stored other otherIn with rfl | ⟨formerIn, distinct⟩
    · exact granted
    refine (founded.granted other formerIn).congr fun grant of_ => apart grant ?_
    exact of_ ▸ distinct
  · intro grant grantIn
    by_cases eq : grant.repositoryId = repository.id
    · obtain ⟨-, of_, -⟩ := mem_grantRows.1 ((granted grant).1 ⟨grantIn, eq⟩)
      exact ⟨repository, mem, eq.symm, of_.symm⟩
    obtain ⟨owner, ownerIn, named, of_⟩ := founded.owned grant ((apart grant eq).1 grantIn)
    exact ⟨owner, others owner ownerIn (named ▸ eq), named, of_⟩

lemma founded_changeRepository {id : Uuid} {change : CodeRepository → CodeRepository}
    {keeps : ∀ row, (change row).id = row.id} (founded : Founded database)
    (eq : ∀ row, (change row).organizationId = row.organizationId ∧ (change row).acl = row.acl) :
    Founded (changeRepository id change keeps database) := by
  have columns : ∀ row : CodeRepository, let after := if row.id = id then change row else row
      after.id = row.id ∧ after.organizationId = row.organizationId ∧ after.acl = row.acl := by
    intro row
    dsimp only
    split
    · exact ⟨keeps row, (eq row).1, (eq row).2⟩
    exact ⟨rfl, rfl, rfl⟩
  constructor
  · intro repository mem
    obtain ⟨former, formerIn, rfl⟩ := List.mem_map.1 mem
    obtain ⟨named, organization, acl⟩ := columns former
    have granted := founded.granted former formerIn
    unfold Granted at granted ⊢
    rw [named, organization, acl]
    exact granted
  · intro grant grantIn
    obtain ⟨owner, ownerIn, named, of_⟩ := founded.owned grant grantIn
    obtain ⟨kept, organization, -⟩ := columns owner
    have stays : _ ∈ (changeRepository id change keeps database).repositories :=
      List.mem_map.2 ⟨owner, ownerIn, rfl⟩
    exact ⟨_, stays, kept.trans named, organization.trans of_⟩

lemma founded_of_perform {action : Action} (founded : Founded before)
    (run : perform before action = some after) : Founded after := by
  cases action with
  | upsert principal request newId =>
    simp only [perform] at run
    split at run
    · next performed =>
      cases run
      exact founded_upsertRepository founded performed
    · cases run
  | index | delete =>
    cases run
    exact founded_changeRepository founded fun _ => ⟨rfl, rfl⟩

structure Hidden (principal : Reader) (repository : CodeRepository) (database : Database) : Prop where
  search : ∀ library query name qualifiedName limit graph hits,
    searchSymbols library principal query name qualifiedName limit database graph = .ok hits →
      ∀ found ∈ hits, found.repositoryId ≠ repository.id
  related : ∀ library operation symbol name limit graph hits,
    relatedSymbols library principal operation symbol name limit database graph = .ok hits →
      ∀ found ∈ hits, found.repositoryId ≠ repository.id
  listing : repository ∉ listRepositories principal database

lemma hidden_of_refused {principal : Reader} {repository : CodeRepository}
    (stored : repository ∈ database.repositories)
    (refused : repositoryAccessClause principal database.grants.rows repository = false) :
    Hidden principal repository database := by
  have invisible : ∀ id : Uuid, (∃ row ∈ database.repositories, row.id = id ∧
      repositoryAccessClause principal database.grants.rows row = true) → id ≠ repository.id := by
    rintro id ⟨row, mem, rfl, selected⟩ eq
    rw [Table.eq_of_key mem stored eq, refused] at selected
    cases selected
  constructor
  · intro library query name qualifiedName limit graph hits run found mem
    exact invisible _ (visible_of_searchSymbols run found mem)
  · intro library operation symbol name limit graph hits run found mem
    exact invisible _ (visible_of_relatedSymbols run found mem)
  · intro listed
    have selected := (Table.mem_select.1 listed).2
    rw [refused, Bool.and_false] at selected
    cases selected

theorem repository_access_agrees {start database : Database} {moves : List (Move Database Action)}
    (empty : Empty start) (path : Path ingestion start moves database) :
    ∀ repository ∈ database.repositories, repository.deletedAt = none →
      (database.grants.select fun grant => grant.repositoryId = repository.id).Perm
        (grantRows repository.organizationId repository.id repository.acl) ∧
      ∀ principal : Reader, repository.organizationId = principal.organizationId →
        repositoryAccessClause principal database.grants.rows repository =
          authorized principal repository.classification repository.acl ∧
        (principal.named repository.acl.denyUsers repository.acl.denyRoles
            repository.acl.denyDepartments = true → Hidden principal repository database) := by
  have initially : Founded start := by
    obtain ⟨repositories, grants⟩ := empty
    constructor
    · intro repository member
      rw [repositories] at member
      exact absurd member (Table.notMem_empty repository)
    · intro grant member
      rw [grants] at member
      exact absurd member (Table.notMem_empty grant)
  have step : ∀ before action after, Founded before → ingestion.step before action after →
      Founded after := fun _ _ _ founded performed => founded_of_perform founded performed
  have founded := path.preserved step initially
  intro repository stored kept
  have granted := founded.granted repository stored
  refine ⟨granted.perm, fun principal member => ⟨accessClause_agrees granted member kept, ?_⟩⟩
  intro denied
  exact hidden_of_refused stored (accessClause_of_denied granted member denied)

def sampleId (digit : Fin 16) : Uuid := .repeating digit

def sampleWriter : Reader := ⟨⟨sampleId 1, sampleId 0, ["code.write"]⟩, ["maintainer"], none⟩

def sampleStart : Database := ⟨.empty, .empty⟩

def sampleActions : List Action :=
  [.upsert sampleWriter ⟨"control", .internal, [("organization", .bool true)], "main"⟩ (sampleId 2),
    .upsert sampleWriter ⟨" control ", .restricted, [("deny_roles", .arr [.str " guest "])], ""⟩
      (sampleId 3)]

/-- The second ingestion has rewritten the grants of the first. -/
theorem repository_access_agrees_sample : ∃ moves database repository,
    Path ingestion sampleStart moves database ∧ repository ∈ database.repositories ∧
      repository.id = sampleId 2 ∧
      ∀ principal : Reader, repository.organizationId = principal.organizationId →
        repositoryAccessClause principal database.grants.rows repository =
          authorized principal repository.classification repository.acl := by
  obtain ⟨moves, database, repository, replayed, stored, named, kept⟩ : ∃ moves database repository,
        replay perform sampleStart sampleActions = some (moves, database) ∧
          database.repositories.rows = [repository] ∧ repository.id = sampleId 2 ∧
          repository.deletedAt = none :=
    ⟨_, _, _, rfl, rfl, rfl, rfl⟩
  have path : Path ingestion sampleStart moves database := Path.of_replay replayed
  have member : repository ∈ database.repositories := by
    rw [Table.mem_iff, stored]
    exact List.mem_cons_self
  obtain ⟨-, agrees⟩ := repository_access_agrees ⟨rfl, rfl⟩ path repository member kept
  exact ⟨moves, database, repository, path, member, named,
    fun principal same => (agrees principal same).1⟩

end Obsion.CodeIntelligence
