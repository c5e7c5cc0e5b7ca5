import Obsion.Sandbox.Paths

/-! # What a snapshot guarantees

The check of a snapshot as a statement about its files, in any order. -/

namespace Obsion.Sandbox

variable {host : Host}

lemma reject_ne_ok {α : Type} {reason : String} {value : α} :
    (reject reason : Except ProjectRejected α) ≠ .ok value := by
  intro eq
  cases eq

lemma sortFiles_perm (files : List (ProjectFile host)) : (sortFiles files).Perm files :=
  List.perm_insertionSort _ files

lemma sortFiles_sorted (files : List (ProjectFile host)) :
    (sortFiles files).Pairwise fun left right => left.path ≤ right.path :=
  List.pairwise_insertionSort (fun left right : ProjectFile host => left.path ≤ right.path) files

def directoriesOf (paths : List String) : List String := (paths.flatMap parents).dedup

structure Legal (revision : ProjectRevision) (files : List (ProjectFile host)) : Prop where
  count : files.length ≤ maxProjectFiles
  size : (files.map fun file => file.content.length).sum ≤ maxProjectBytes
  compatible : Compatible host (files.map ProjectFile.path)
  entries : files.length + (directoriesOf (files.map ProjectFile.path)).length ≤ maxProjectEntries
  manifest : (canonical (manifestOf revision files)).length ≤ maxManifestBytes

lemma directories_length {paths : List String} {seen : Seen}
    (holds : Holds host paths (paths.flatMap parents) seen) :
    seen.directories.length = (directoriesOf paths).length := by
  have eq : (seen.directories.map Prod.snd).Perm (directoriesOf paths) := by
    refine (List.perm_ext_iff_of_nodup holds.distinct (List.nodup_dedup _)).2 fun name => ?_
    rw [holds.names]
    exact List.mem_dedup.symm
  rw [← eq.length_eq, List.length_map]

lemma directoriesOf_perm {paths others : List String} (eq : paths.Perm others) :
    (directoriesOf paths).length = (directoriesOf others).length :=
  ((eq.flatMap_right parents).dedup).length_eq

variable {revision : ProjectRevision} {files : List (ProjectFile host)}

lemma sorted_paths_perm (files : List (ProjectFile host)) :
    ((sortFiles files).map ProjectFile.path).Perm (files.map ProjectFile.path) :=
  (sortFiles_perm files).map ProjectFile.path

lemma checkSnapshot_iff : checkSnapshot revision files = .ok () ↔ Legal revision files := by
  have paths := sorted_paths_perm files
  unfold checkSnapshot
  constructor
  · intro run
    split at run
    · exact absurd run reject_ne_ok
    next count =>
    split at run
    · exact absurd run reject_ne_ok
    next size =>
    obtain ⟨seen, collisions, rest⟩ := of_bind_ok run
    obtain ⟨compatible, holds⟩ := seePaths_ok collisions
    split at rest
    · exact absurd rest reject_ne_ok
    next entries =>
    split at rest
    · exact absurd rest reject_ne_ok
    next manifest =>
    refine ⟨by omega, by omega, compatible.perm paths, ?_, by omega⟩
    rw [directories_length holds, holds.paths, List.length_map, List.length_map,
      directoriesOf_perm paths, (sortFiles_perm files).length_eq] at entries
    omega
  · intro legal
    obtain ⟨seen, collisions⟩ := seePaths_exists (legal.compatible.perm paths.symm)
    obtain ⟨-, holds⟩ := seePaths_ok collisions
    have entries : seen.paths.length + seen.directories.length ≤ maxProjectEntries := by
      rw [directories_length holds, holds.paths, List.length_map, List.length_map,
        directoriesOf_perm paths, (sortFiles_perm files).length_eq]
      exact legal.entries
    rw [if_neg (by have := legal.count; omega), if_neg (by have := legal.size; omega), collisions]
    change (if _ then _ else _) = _
    rw [if_neg (by omega), if_neg (by have := legal.manifest; omega)]

lemma canonical_eq (value : Json) : canonical value = encodeChars value.dumpsChars :=
  encode_ofList _

lemma checkSnapshot_of (count : files.length ≤ maxProjectFiles)
    (size : (files.map fun file => file.content.length).sum ≤ maxProjectBytes)
    (collisions : (seePaths host (files.map ProjectFile.path)).toOption.isSome)
    (entries : files.length + (directoriesOf (files.map ProjectFile.path)).length ≤ maxProjectEntries)
    (manifest : (encodeChars (manifestOf revision files).dumpsChars).length ≤ maxManifestBytes) :
    checkSnapshot revision files = .ok () := by
  obtain ⟨seen, found⟩ := Option.isSome_iff_exists.1 collisions
  rw [← canonical_eq] at manifest
  exact checkSnapshot_iff.2
    ⟨count, size, (seePaths_ok (ok_of_toOption found)).1, entries, manifest⟩

variable (snapshot : ProjectSnapshot host)

lemma ProjectSnapshot.legal : Legal snapshot.revision snapshot.files :=
  checkSnapshot_iff.1 snapshot.valid

lemma ProjectSnapshot.paths_nodup : (snapshot.files.map ProjectFile.path).Nodup :=
  snapshot.legal.compatible.nodup

lemma ProjectSnapshot.eq_of_path {left right : ProjectFile host} (leftIn : left ∈ snapshot.files)
    (rightIn : right ∈ snapshot.files) (eq : left.path = right.path) : left = right :=
  List.inj_on_of_nodup_map snapshot.paths_nodup leftIn rightIn eq

end Obsion.Sandbox
