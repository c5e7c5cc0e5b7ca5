import Obsion.Sandbox.Project

/-! # The collision check of a snapshot

`seePaths` keeps folded files and folded directories in two tables.  It accepts exactly the
compatible lists of paths: no two of them fold to one name, no directory folds to the name of
another file, and two directories that fold to one name are the same directory.  The order
of the paths plays no role. -/

namespace Obsion.Sandbox

lemma splitPath_ne_nil (path : String) : splitPath path ≠ [] := by
  simp [splitPath]

lemma joinPath_splitPath (path : String) : joinPath (splitPath path) = path := by
  have texts : (splitPath path).map String.toList = path.toList.splitOn '/' := by
    simp [splitPath, Function.comp_def]
  rw [joinPath, texts, List.intercalate_splitOn, String.ofList_toList]

variable {upper parent : String} {files directories paths : List String} {seen next : Seen}

variable {path key : String} {others ups done : List String}

lemma splitPath_append {rest : List Char} (below : path.toList = upper.toList ++ '/' :: rest) :
    splitPath path = splitPath upper ++ splitPath (String.ofList rest) := by
  rw [splitPath, below, List.splitOn_append_cons_self, List.map_append, splitPath, splitPath,
    String.toList_ofList]

lemma intercalate_append {first second : List (List Char)} (left : first ≠ []) (right : second ≠ []) :
    List.intercalate ['/'] (first ++ second)
      = List.intercalate ['/'] first ++ '/' :: List.intercalate ['/'] second := by
  induction first with
  | nil => exact absurd rfl left
  | cons head tail ih =>
    cases tail with
    | nil => simp [List.intercalate_cons_of_ne_nil right]
    | cons next others =>
      have rest := ih (List.cons_ne_nil next others)
      have filled : next :: others ++ second ≠ [] := by simp
      rw [List.cons_append, List.intercalate_cons_of_ne_nil filled, rest,
        List.intercalate_cons_of_ne_nil (List.cons_ne_nil next others)]
      simp only [List.append_assoc]

lemma mem_parents_iff :
    upper ∈ parents path ↔ ∃ rest, path.toList = upper.toList ++ '/' :: rest := by
  constructor
  · intro mem
    obtain ⟨index, inside, rfl⟩ := List.mem_map.1 mem
    have short := List.mem_range.1 inside
    refine ⟨List.intercalate ['/'] (((splitPath path).drop (index + 1)).map String.toList), ?_⟩
    have whole : path.toList = List.intercalate ['/'] ((splitPath path).map String.toList) := by
      rw [← String.toList_ofList (l := List.intercalate _ _)]
      exact congrArg String.toList (joinPath_splitPath path).symm
    have cut : (splitPath path).map String.toList
        = ((splitPath path).take (index + 1)).map String.toList
          ++ ((splitPath path).drop (index + 1)).map String.toList := by
      rw [← List.map_append, List.take_append_drop]
    rw [joinPath, String.toList_ofList, whole, cut]
    refine intercalate_append ?_ ?_
    · intro empty
      have none_ := List.map_eq_nil_iff.1 empty
      rw [List.take_eq_nil_iff] at none_
      rcases none_ with zero | nothing
      · omega
      exact splitPath_ne_nil path nothing
    · intro empty
      have none_ := List.map_eq_nil_iff.1 empty
      rw [List.drop_eq_nil_iff] at none_
      omega
  · rintro ⟨rest, below⟩
    have cut := splitPath_append below
    have filled := List.length_pos_of_ne_nil (splitPath_ne_nil upper)
    have more := List.length_pos_of_ne_nil (splitPath_ne_nil (String.ofList rest))
    refine List.mem_map.2 ⟨(splitPath upper).length - 1, ?_, ?_⟩
    · rw [cut, List.length_append, List.mem_range]
      omega
    have count : (splitPath upper).length - 1 + 1 = (splitPath upper).length := by omega
    rw [count, cut, List.take_left, joinPath_splitPath]

lemma not_mem_parents_self (path : String) : path ∉ parents path := by
  intro mem
  obtain ⟨rest, eq⟩ := mem_parents_iff.1 mem
  have lengths := congrArg List.length eq
  simp at lengths

/-! ## The tables -/

variable {host : Host}

def FoldsApart (host : Host) (directories : List String) : Prop :=
  ∀ left ∈ directories, ∀ right ∈ directories, host.casefold left = host.casefold right → left = right

/-- The tables hold these files and directories. -/
structure Holds (host : Host) (files directories : List String) (seen : Seen) : Prop where
  paths : seen.paths = files.map host.casefold
  entries : seen.directories = (seen.directories.map Prod.snd).map fun name => (host.casefold name, name)
  distinct : (seen.directories.map Prod.snd).Nodup
  names : ∀ name, name ∈ seen.directories.map Prod.snd ↔ name ∈ directories

lemma Holds.empty : Holds host [] [] ⟨[], []⟩ := ⟨rfl, rfl, List.nodup_nil, fun _ => Iff.rfl⟩

lemma Holds.mem (holds : Holds host files directories seen) {entry : String × String} :
    entry ∈ seen.directories ↔ entry.2 ∈ directories ∧ entry.1 = host.casefold entry.2 := by
  rw [holds.entries, ← holds.names]
  constructor
  · intro mem
    obtain ⟨name, inside, rfl⟩ := List.mem_map.1 mem
    exact ⟨inside, rfl⟩
  · rintro ⟨inside, key⟩
    refine List.mem_map.2 ⟨entry.2, inside, ?_⟩
    rw [← key]

lemma Holds.directory_none (holds : Holds host files directories seen) :
    seen.directory key = none ↔ ∀ name ∈ directories, host.casefold name ≠ key := by
  rw [Seen.directory, Option.map_eq_none_iff, List.find?_eq_none]
  constructor
  · intro absent name mem eq
    exact absent (key, name) (holds.mem.2 ⟨mem, eq.symm⟩) (by simp)
  intro absent entry mem eq
  obtain ⟨inside, folded⟩ := holds.mem.1 mem
  exact absent entry.2 inside (folded.symm.trans (by simpa using eq))

lemma Holds.directory_some (holds : Holds host files directories seen) {found : String}
    (located : seen.directory key = some found) : found ∈ directories ∧ host.casefold found = key := by
  obtain ⟨entry, eq, rfl⟩ := Option.map_eq_some_iff.1 located
  obtain ⟨inside, folded⟩ := holds.mem.1 (List.mem_of_find?_eq_some eq)
  have key := List.find?_some eq
  exact ⟨inside, folded.symm.trans (by simpa using key)⟩

lemma FoldsApart.subset (apart : FoldsApart host directories)
    (within : ∀ name ∈ others, name ∈ directories) : FoldsApart host others :=
  fun left leftIn right rightIn => apart left (within left leftIn) right (within right rightIn)

section
variable (holds : Holds host files directories seen)
include holds

lemma Holds.add (absent : ∀ name ∈ directories, host.casefold name ≠ host.casefold parent) :
    Holds host files (directories ++ [parent])
      { seen with directories := seen.directories ++ [(host.casefold parent, parent)] } where
  paths := holds.paths
  entries := by
    have stored := holds.entries
    simp only [List.map_append, List.map_cons, List.map_nil]
    rw [← stored]
  distinct := by
    rw [List.map_append]
    refine holds.distinct.append (List.nodup_singleton parent) ?_
    intro name inside eq
    rw [List.map_cons, List.map_nil, List.mem_singleton] at eq
    exact absent name ((holds.names name).1 inside) (congrArg host.casefold eq)
  names := by
    intro name
    rw [List.map_append, List.mem_append, List.mem_append, holds.names]
    simp

lemma Holds.again (known : parent ∈ directories) :
    Holds host files (directories ++ [parent]) seen where
  paths := holds.paths
  entries := holds.entries
  distinct := holds.distinct
  names := by
    intro name
    rw [holds.names, List.mem_append, List.mem_singleton]
    constructor
    · exact .inl
    rintro (inside | rfl)
    · exact inside
    · exact known

lemma seeParent_ok (apart : FoldsApart host directories)
    (run : seeParent host seen parent = .ok next) :
    host.casefold parent ∉ files.map host.casefold ∧ FoldsApart host (directories ++ [parent]) ∧
      Holds host files (directories ++ [parent]) next := by
  simp only [seeParent] at run
  split at run
  · cases run
  next fresh =>
  rw [holds.paths] at fresh
  refine ⟨fresh, ?_⟩
  split at run
  · next found located =>
    split at run
    · cases run
    next eq =>
    cases run
    obtain ⟨known, -⟩ := holds.directory_some located
    rw [not_not.1 eq] at known
    refine ⟨apart.subset ?_, holds.again known⟩
    intro name mem
    rcases List.mem_append.1 mem with older | added
    · exact older
    exact (List.mem_singleton.1 added).symm ▸ known
  · next missing =>
    cases run
    have absent := holds.directory_none.1 missing
    refine ⟨?_, holds.add absent⟩
    intro left leftIn right rightIn eq
    rcases List.mem_append.1 leftIn with leftOld | leftNew
    · rcases List.mem_append.1 rightIn with rightOld | rightNew
      · exact apart left leftOld right rightOld eq
      rw [List.mem_singleton.1 rightNew] at eq
      exact absurd eq (absent left leftOld)
    · rcases List.mem_append.1 rightIn with rightOld | rightNew
      · rw [List.mem_singleton.1 leftNew] at eq
        exact absurd eq.symm (absent right rightOld)
      rw [List.mem_singleton.1 leftNew, List.mem_singleton.1 rightNew]

lemma seeParent_exists (fresh : host.casefold parent ∉ files.map host.casefold)
    (apart : FoldsApart host (directories ++ [parent])) :
    ∃ next, seeParent host seen parent = .ok next := by
  simp only [seeParent]
  rw [holds.paths, if_neg fresh]
  split
  · next found located =>
    obtain ⟨known, folded⟩ := holds.directory_some located
    have eq := apart found (List.mem_append_left _ known) parent (by simp) folded
    exact ⟨seen, if_neg (not_not.2 eq)⟩
  · exact ⟨_, rfl⟩

lemma seeParents_ok (apart : FoldsApart host directories)
    (run : ups.foldlM (seeParent host) seen = .ok next) :
    (∀ up ∈ ups, host.casefold up ∉ files.map host.casefold) ∧ FoldsApart host (directories ++ ups) ∧
      Holds host files (directories ++ ups) next := by
  induction ups generalizing directories seen with
  | nil =>
    cases run
    rw [List.append_nil]
    exact ⟨nofun, apart, holds⟩
  | cons up rest ih =>
    obtain ⟨middle, first, others⟩ := of_bind_ok run
    obtain ⟨fresh, apartFirst, holdsFirst⟩ := seeParent_ok holds apart first
    obtain ⟨freshRest, apartRest, holdsRest⟩ := ih holdsFirst apartFirst others
    rw [List.append_assoc, List.singleton_append] at apartRest holdsRest
    refine ⟨?_, apartRest, holdsRest⟩
    intro other mem
    rcases List.mem_cons.1 mem with rfl | later
    · exact fresh
    exact freshRest other later

lemma seeParents_exists (fresh : ∀ up ∈ ups, host.casefold up ∉ files.map host.casefold)
    (apart : FoldsApart host (directories ++ ups)) :
    ∃ next, ups.foldlM (seeParent host) seen = .ok next := by
  induction ups generalizing directories seen with
  | nil => exact ⟨seen, rfl⟩
  | cons up rest ih =>
    have first : FoldsApart host (directories ++ [up]) := by
      refine apart.subset fun name mem => ?_
      rcases List.mem_append.1 mem with older | added
      · exact List.mem_append_left _ older
      exact List.mem_append_right _ (List.mem_singleton.1 added ▸ List.mem_cons_self)
    have before : FoldsApart host directories :=
      apart.subset fun name mem => List.mem_append_left _ mem
    obtain ⟨middle, stepped⟩ := seeParent_exists holds (fresh up List.mem_cons_self) first
    obtain ⟨-, -, held⟩ := seeParent_ok holds before stepped
    have whole : FoldsApart host (directories ++ [up] ++ rest) := by
      rw [List.append_assoc]
      exact apart
    obtain ⟨next, done⟩ := ih held (fun other mem => fresh other (List.mem_cons_of_mem _ mem)) whole
    refine ⟨next, ?_⟩
    rw [List.foldlM_cons, stepped]
    exact done

end

def Crosses (host : Host) (left right : String) : Prop :=
  (∀ up ∈ parents left, host.casefold up ≠ host.casefold right) ∧
    ∀ up ∈ parents right, host.casefold up ≠ host.casefold left

instance : Std.Symm (Crosses host) := ⟨fun _ _ crosses => ⟨crosses.2, crosses.1⟩⟩

structure Compatible (host : Host) (paths : List String) : Prop where
  files : (paths.map host.casefold).Nodup
  directories : FoldsApart host (paths.flatMap parents)
  apart : paths.Pairwise (Crosses host)

lemma seePaths_ok_from (holds : Holds host done (done.flatMap parents) seen)
    (compatible : Compatible host done) (run : paths.foldlM (seePath host) seen = .ok next) :
    Compatible host (done ++ paths) ∧ Holds host (done ++ paths) ((done ++ paths).flatMap parents) next := by
  induction paths generalizing done seen with
  | nil =>
    cases run
    rw [List.append_nil]
    exact ⟨compatible, holds⟩
  | cons path rest ih =>
    obtain ⟨middle, first, others⟩ := of_bind_ok run
    simp only [seePath] at first
    split at first
    · cases first
    next free =>
    obtain ⟨unused, noDirectory⟩ := not_or.1 free
    obtain ⟨inner, parentsRun, last⟩ := of_bind_ok first
    cases last
    rw [holds.paths] at unused
    have absent := holds.directory_none.1 (Option.not_isSome_iff_eq_none.1 noDirectory)
    obtain ⟨fresh, apart, held⟩ := seeParents_ok holds compatible.directories parentsRun
    have directories : (done ++ [path]).flatMap parents = done.flatMap parents ++ parents path := by
      simp
    have stepped : Compatible host (done ++ [path]) := by
      refine ⟨?_, directories ▸ apart, ?_⟩
      · rw [List.map_append]
        refine compatible.files.append (List.nodup_singleton _) ?_
        intro folded inside eq
        rw [List.map_cons, List.map_nil, List.mem_singleton] at eq
        exact unused (eq ▸ inside)
      · refine List.pairwise_append.2 ⟨compatible.apart, List.pairwise_singleton _ _, ?_⟩
        intro earlier mem other eq
        obtain rfl := List.mem_singleton.1 eq
        refine ⟨fun up inside => ?_, fun up inside => ?_⟩
        · exact absent up (List.mem_flatMap.2 ⟨earlier, mem, inside⟩)
        intro folded
        exact fresh up inside (folded ▸ List.mem_map_of_mem mem)
    have kept : Holds host (done ++ [path]) ((done ++ [path]).flatMap parents)
        { inner with paths := inner.paths ++ [host.casefold path] } := by
      rw [directories]
      exact ⟨by simp [held.paths], held.entries, held.distinct, held.names⟩
    have next := ih kept stepped others
    rwa [List.append_assoc, List.singleton_append] at next

lemma seePaths_exists_from (holds : Holds host done (done.flatMap parents) seen)
    (compatible : Compatible host (done ++ paths)) :
    ∃ next, paths.foldlM (seePath host) seen = .ok next := by
  induction paths generalizing done seen with
  | nil => exact ⟨seen, rfl⟩
  | cons path rest ih =>
    have folded := compatible.files
    rw [List.map_append, List.nodup_append] at folded
    obtain ⟨doneFiles, -, disjoint⟩ := folded
    have crossed := List.pairwise_append.1 compatible.apart
    have unused : host.casefold path ∉ done.map host.casefold := by
      intro inside
      exact disjoint _ inside _ (List.mem_map_of_mem List.mem_cons_self) rfl
    have absent : ∀ name ∈ done.flatMap parents, host.casefold name ≠ host.casefold path := by
      intro name mem
      obtain ⟨earlier, inside, below⟩ := List.mem_flatMap.1 mem
      exact (crossed.2.2 earlier inside path List.mem_cons_self).1 name below
    have fresh : ∀ up ∈ parents path, host.casefold up ∉ done.map host.casefold := by
      intro up inside among
      obtain ⟨earlier, mem, eq⟩ := List.mem_map.1 among
      exact (crossed.2.2 earlier mem path List.mem_cons_self).2 up inside eq.symm
    have apart : FoldsApart host (done.flatMap parents ++ parents path) := by
      refine compatible.directories.subset fun name mem => ?_
      rw [List.flatMap_append, List.flatMap_cons]
      rcases List.mem_append.1 mem with older | added
      · exact List.mem_append_left _ older
      exact List.mem_append_right _ (List.mem_append_left _ added)
    have before : FoldsApart host (done.flatMap parents) :=
      apart.subset fun name mem => List.mem_append_left _ mem
    obtain ⟨inner, parentsRun⟩ := seeParents_exists holds fresh apart
    obtain ⟨-, -, held⟩ := seeParents_ok holds before parentsRun
    have step : seePath host seen path
        = .ok { inner with paths := inner.paths ++ [host.casefold path] } := by
      simp only [seePath]
      rw [if_neg, parentsRun]
      · rfl
      · rw [holds.paths, holds.directory_none.2 absent]
        simpa using unused
    have directories : (done ++ [path]).flatMap parents = done.flatMap parents ++ parents path := by
      simp
    have kept : Holds host (done ++ [path]) ((done ++ [path]).flatMap parents)
        { inner with paths := inner.paths ++ [host.casefold path] } := by
      rw [directories]
      exact ⟨by simp [held.paths], held.entries, held.distinct, held.names⟩
    rw [List.append_cons] at compatible
    obtain ⟨next, run⟩ := ih kept compatible
    refine ⟨next, ?_⟩
    rw [List.foldlM_cons, step]
    exact run

lemma compatible_nil : Compatible host [] :=
  ⟨List.nodup_nil, nofun, List.Pairwise.nil⟩

lemma seePaths_ok (run : seePaths host paths = .ok seen) :
    Compatible host paths ∧ Holds host paths (paths.flatMap parents) seen :=
  seePaths_ok_from Holds.empty compatible_nil run

lemma seePaths_exists (compatible : Compatible host paths) :
    ∃ seen, seePaths host paths = .ok seen := seePaths_exists_from Holds.empty compatible

lemma Compatible.perm (compatible : Compatible host paths) (eq : paths.Perm others) :
    Compatible host others where
  files := (eq.map host.casefold).nodup_iff.1 compatible.files
  directories := compatible.directories.subset fun _ mem => (eq.flatMap_right parents).mem_iff.2 mem
  apart := by
    refine eq.pairwise compatible.apart ?_
    rintro left right ⟨leftApart, rightApart⟩
    exact ⟨rightApart, leftApart⟩

lemma Compatible.nodup (compatible : Compatible host paths) : paths.Nodup :=
  compatible.files.of_map host.casefold

lemma Compatible.not_parent (compatible : Compatible host paths) {lower : String}
    (upperIn : upper ∈ paths) (lowerIn : lower ∈ paths) : upper ∉ parents lower := by
  intro mem
  have apart : upper ≠ lower := by
    rintro rfl
    exact not_mem_parents_self upper mem
  have crosses := compatible.apart.forall upperIn lowerIn apart
  exact crosses.2 upper mem rfl

end Obsion.Sandbox
