import Obsion.Base.Loads
import Obsion.Sandbox.Delivered

/-! # What a manifest says

The canonical text of a manifest determines its entries, and so the files, as far as the
digest tells contents apart. -/

namespace Obsion.Sandbox

open Loads

variable {host : Host}

lemma plain_size {size : Nat} (small : size ≤ maxFileBytes) : Plain (.int size) := by
  change (Nat.toDigits 10 size).length ≤ maxIntDigits
  refine le_trans (b := 7) ?_ (by decide)
  rw [Nat.length_toDigits_le_iff (by decide) (by decide)]
  exact Nat.lt_of_le_of_lt small (by decide)

lemma ProjectFile.size_le (file : ProjectFile host) : file.content.length ≤ maxFileBytes := by
  have valid := file.valid
  rw [checkFile] at valid
  obtain ⟨-, -, rest⟩ := of_bind_ok valid
  split at rest
  · exact absurd rest reject_ne_ok
  next fits => exact Nat.le_of_not_lt fits

lemma plain_metadata (file : ProjectFile host) : Plain file.metadata := by
  have keys : ["path", "sha256", "size", "executable"].Nodup := by decide
  exact ⟨keys, trivial, trivial, plain_size file.size_le, trivial, trivial⟩

lemma plain_manifest (revision : ProjectRevision) (files : List (ProjectFile host)) :
    Plain (manifestOf revision files) := by
  have version : Plain (.int 1) := by
    change (Nat.toDigits 10 1).length ≤ maxIntDigits
    decide
  have entries : ∀ list : List (ProjectFile host), PlainValues (list.map ProjectFile.metadata) := by
    intro list
    induction list with
    | nil => trivial
    | cons file rest ih => exact ⟨plain_metadata file, ih⟩
  have keys : ["version", "revision", "files"].Nodup := by decide
  have wireKeys : ["organization_id", "workspace_id", "repository_id", "connector_version_id",
    "commit_id", "tree_id"].Nodup := by decide
  have wire : Plain revision.toWire :=
    ⟨wireKeys, trivial, trivial, trivial, trivial, trivial, trivial, trivial⟩
  exact ⟨keys, version, wire, entries (sortFiles files), trivial⟩

lemma sortKeys_metadata (file : ProjectFile host) :
    sortKeys file.metadata = .obj [("executable", .bool file.executable), ("path", .str file.path),
      ("sha256", .str (host.sha256 file.content)), ("size", .int file.content.length)] := by
  simp +decide [ProjectFile.metadata, sortKeys, sortMembers, List.orderedInsert]

lemma sortKeys_manifest (revision : ProjectRevision) (files : List (ProjectFile host)) :
    sortKeys (manifestOf revision files)
      = .obj [("files", .arr ((sortFiles files).map fun file => sortKeys file.metadata)),
        ("revision", sortKeys revision.toWire), ("version", .int 1)] := by
  have sorted : ∀ first second third : Json,
      (List.insertionSort (fun left right : String × Json => left.1 ≤ right.1)
        [("version", first), ("revision", second), ("files", third)])
      = [("files", third), ("revision", second), ("version", first)] := by
    intro first second third
    simp +decide [List.orderedInsert]
  rw [manifestOf, sortKeys, sortMembers, sortMembers, sortMembers, sortMembers, sorted, sortKeys,
    sortKeys, sortValues_eq, List.map_map]
  rfl

/-! ## The entries -/

def CollisionFree (host : Host) (texts : List Bytes) : Prop :=
  ∀ left ∈ texts, ∀ right ∈ texts, host.sha256 left = host.sha256 right → left = right

/-- The texts that the fingerprints of two snapshots are computed from. -/
def hashedTexts (base result : ProjectSnapshot host) : List Bytes :=
  [canonical base.manifest, canonical result.manifest]
    ++ (base.files ++ result.files).map ProjectFile.content

variable {base result : ProjectSnapshot host}

lemma metadata_injective {texts : List Bytes} (apart : CollisionFree host texts)
    {left right : ProjectFile host} (leftIn : left.content ∈ texts) (rightIn : right.content ∈ texts)
    (eq : sortKeys left.metadata = sortKeys right.metadata) : left = right := by
  rw [sortKeys_metadata, sortKeys_metadata] at eq
  simp only [Json.obj.injEq, List.cons.injEq, Prod.mk.injEq, Json.bool.injEq, Json.str.injEq,
    true_and, and_true] at eq
  obtain ⟨executables, paths, digests, -⟩ := eq
  have contents := apart left.content leftIn right.content rightIn digests
  cases left
  cases right
  cases executables
  cases paths
  cases contents
  rfl

lemma mem_of_same_metadata {texts : List Bytes} (apart : CollisionFree host texts)
    {files others : List (ProjectFile host)} (within : ∀ file ∈ files ++ others, file.content ∈ texts)
    (eq : (sortFiles files).map (fun file => sortKeys file.metadata)
      = (sortFiles others).map fun file => sortKeys file.metadata) {file : ProjectFile host}
    (inside : file ∈ files) : file ∈ others := by
  have listed : sortKeys file.metadata ∈ (sortFiles files).map fun file => sortKeys file.metadata :=
    List.mem_map_of_mem ((sortFiles_perm files).mem_iff.2 inside)
  rw [eq] at listed
  obtain ⟨other, among, equal⟩ := List.mem_map.1 listed
  have otherIn := (sortFiles_perm others).mem_iff.1 among
  have found := metadata_injective apart (within other (List.mem_append_right _ otherIn))
    (within file (List.mem_append_left _ inside)) equal
  exact found ▸ otherIn

lemma fileAt_congr (eq : ∀ file, file ∈ base.files ↔ file ∈ result.files) (path : String) :
    fileAt base.files path = fileAt result.files path := by
  cases found : fileAt base.files path with
  | some file =>
    obtain ⟨inside, rfl⟩ := fileAt_some found
    exact (fileAt_of_mem result ((eq file).1 inside)).symm
  | none =>
    cases other : fileAt result.files path with
    | none => rfl
    | some file =>
      obtain ⟨inside, rfl⟩ := fileAt_some other
      rw [fileAt_of_mem base ((eq file).2 inside)] at found
      cases found

lemma sortFiles_congr (eq : ∀ file, file ∈ base.files ↔ file ∈ result.files) :
    sortFiles base.files = sortFiles result.files := by
  have permuted : base.files.Perm result.files :=
    (List.perm_ext_iff_of_nodup (base.paths_nodup.of_map _) (result.paths_nodup.of_map _)).2 eq
  have both : (sortFiles base.files).Perm (sortFiles result.files) :=
    (sortFiles_perm _).trans (permuted.trans (sortFiles_perm _).symm)
  refine List.Perm.eq_of_pairwise ?_ (sortFiles_sorted _) (sortFiles_sorted _) both
  intro left right leftIn rightIn upper lower
  have leftFile := (eq left).1 ((sortFiles_perm _).mem_iff.1 leftIn)
  exact result.eq_of_path leftFile ((sortFiles_perm _).mem_iff.1 rightIn) (String.le_antisymm upper lower)

lemma changedPaths_nil_iff :
    changedPaths base result = [] ↔ ∀ file, file ∈ base.files ↔ file ∈ result.files := by
  constructor
  · intro empty file
    have eq : ∀ path ∈ allPaths base result, fileAt base.files path = fileAt result.files path := by
      intro path inside
      simpa using List.filter_eq_nil_iff.1 empty path inside
    constructor
    · intro inside
      have listed := mem_allPaths.2 (List.mem_map_of_mem (List.mem_append_left result.files inside))
      have found := (eq file.path listed).symm.trans (fileAt_of_mem base inside)
      exact (fileAt_some found).1
    · intro inside
      have listed := mem_allPaths.2 (List.mem_map_of_mem (List.mem_append_right base.files inside))
      have found := (eq file.path listed).trans (fileAt_of_mem result inside)
      exact (fileAt_some found).1
  · intro eq
    refine List.filter_eq_nil_iff.2 fun path _ => ?_
    simpa using fileAt_congr eq path

lemma changes_nil_iff : changes base result = [] ↔ changedPaths base result = [] := by
  rw [changes, List.filterMap_eq_nil_iff, changedPaths, changed, List.filter_eq_nil_iff]
  refine forall_congr' fun path => forall_congr' fun _ => ?_
  by_cases eq : fileAt base.files path = fileAt result.files path <;> simp [eq]

lemma patch_nil_iff {patch : Bytes} (run : createPatch base result = .ok patch) :
    patch = [] ↔ changedPaths base result = [] := by
  obtain ⟨-, rfl⟩ := createPatch_ok run
  rw [List.flatten_eq_nil_iff]
  constructor
  · intro empty
    cases paths : changedPaths base result with
    | nil => rfl
    | cons path rest =>
      have mem : path ∈ changedPaths base result := paths ▸ List.mem_cons_self
      exact absurd (empty _ (List.mem_map_of_mem mem)) (piece_ne_nil (changedPaths_differ mem))
  · intro empty text inside
    rw [empty] at inside
    cases inside

lemma fingerprint_eq_iff (revisions : base.revision = result.revision)
    (apart : CollisionFree host (hashedTexts base result)) :
    base.fingerprint = result.fingerprint ↔ ∀ file, file ∈ base.files ↔ file ∈ result.files := by
  constructor
  · intro eq
    have texts := apart (canonical base.manifest) List.mem_cons_self (canonical result.manifest)
      (List.mem_cons_of_mem _ List.mem_cons_self) eq
    have manifests := dumps_injective (plain_manifest _ _) (plain_manifest _ _) (encode_injective texts)
    rw [sortKeys_manifest, sortKeys_manifest] at manifests
    have entries := Json.arr.inj (Prod.mk.inj (List.cons.inj (Json.obj.inj manifests)).1).2
    have within : ∀ file ∈ base.files ++ result.files, file.content ∈ hashedTexts base result :=
      fun file inside => List.mem_append_right _ (List.mem_map_of_mem inside)
    have back : ∀ file ∈ result.files ++ base.files, file.content ∈ hashedTexts base result := by
      intro file inside
      refine within file (List.mem_append.2 ?_)
      exact (List.mem_append.1 inside).symm
    exact fun file => ⟨mem_of_same_metadata apart within entries,
      mem_of_same_metadata apart back entries.symm⟩
  · intro eq
    rw [ProjectSnapshot.fingerprint, ProjectSnapshot.manifest, manifestOf, sortFiles_congr eq, revisions]
    rfl

/-- The patch turns the base into the result, and it is empty exactly if nothing changes. -/
theorem delivered_patch {patch : Bytes} (run : createPatch base result = .ok patch)
    (apart : CollisionFree host (hashedTexts base result)) :
    (∃ tree, Lib.Patch.applyPatch patch (treeOf base.files) = some tree ∧ tree.Perm (treeOf result.files))
      ∧ (patch = [] ↔ changes base result = [])
      ∧ (changes base result = [] ↔ base.fingerprint = result.fingerprint) := by
  refine ⟨applyPatch_createPatch run, ?_, ?_⟩
  · rw [patch_nil_iff run, changes_nil_iff]
  rw [changes_nil_iff, changedPaths_nil_iff, fingerprint_eq_iff (createPatch_ok run).1 apart]

def sampleHost : Host where
  nfc := id
  isOther _ := false
  casefold := id
  scanSecretText _ _ := false
  sha256 content := toString (content.foldl (fun sum byte => (257 * sum + byte.toNat) % 999983) 1)

def sampleId (digit : Fin 16) : Uuid := .repeating digit

def sampleRevision : ProjectRevision :=
  ⟨sampleId 1, sampleId 2, sampleId 3, sampleId 4, String.ofList (List.replicate 40 'a'),
    String.ofList (List.replicate 40 'b'), by decide +kernel⟩

def sampleBase : ProjectSnapshot sampleHost :=
  ⟨sampleRevision, [⟨"a", encode "x\n+y", false, by decide +kernel⟩,
    ⟨"c", [], false, by decide +kernel⟩],
    checkSnapshot_of (by decide) (by decide +kernel) (by decide +kernel) (by decide +kernel)
      (by decide +kernel)⟩

def sampleResult : ProjectSnapshot sampleHost :=
  ⟨sampleRevision, [⟨"a/b", encode "é", true, by decide +kernel⟩,
    ⟨"c", [], true, by decide +kernel⟩],
    checkSnapshot_of (by decide) (by decide +kernel) (by decide +kernel) (by decide +kernel)
      (by decide +kernel)⟩

theorem delivered_patch_sample :
    ∃ patch, createPatch sampleBase sampleResult = .ok patch ∧ patch ≠ [] ∧
      ∃ tree, Lib.Patch.applyPatch patch (treeOf sampleBase.files) = some tree ∧
        tree.Perm (treeOf sampleResult.files) := by
  have apart : CollisionFree sampleHost (hashedTexts sampleBase sampleResult) := by
    simp only [hashedTexts, canonical_eq]
    unfold CollisionFree
    decide +kernel
  cases made : createPatch sampleBase sampleResult with
  | error reason =>
    have succeeds : (createPatch sampleBase sampleResult).toBool = true := by decide +kernel
    rw [made] at succeeds
    cases succeeds
  | ok patch =>
    have differ : changedPaths sampleBase sampleResult ≠ [] := by decide +kernel
    exact ⟨patch, rfl, mt (patch_nil_iff made).1 differ, (delivered_patch made apart).1⟩

end Obsion.Sandbox
