import Obsion.Sandbox.Written

/-! # What a delivered patch does

The applier takes the patch apart into one file patch for each path that differs, and every
one of them puts the file of the result in the place of the file of the base. -/

namespace Obsion.Sandbox

open Lib Lib.Reader Lib.Patch

variable {host : Host}

lemma offset_start (texts : List Bytes) : offset (start texts) texts.length = some 0 := by
  cases texts <;> rfl

lemma applyContents_hunkOf (old new : Option (ProjectFile host)) :
    applyContents (hunkOf old new) (contentOf old) = some (contentOf new) := by
  by_cases eq : contentOf old = contentOf new
  · rw [hunkOf, if_pos eq, applyContents, eq]
  rw [hunkOf, if_neg eq]
  simp only [applyContents, applyHunk, offset_start, splitLines_eq_lines]
  simp [flatten_lines]

def entryOf (file : ProjectFile host) : Entry := ⟨encode file.path, file.content, file.executable⟩

def treeOf (files : List (ProjectFile host)) : Patch.Tree := files.map entryOf

variable {path : String} {old new : Option (ProjectFile host)}

lemma applyFile_patchOf {tree : Patch.Tree} (differ : old ≠ new)
    (newAt : ∀ file, new = some file → file.path = path)
    (located : (tree.find? fun entry => entry.path = encode path) = old.map entryOf) :
    applyFile tree (patchOf path old new)
      = some ((new.map entryOf).toList ++ without tree (encode path)) := by
  have contents := applyContents_hunkOf old new
  rw [patchOf]
  cases old with
  | none =>
    cases new with
    | none => exact absurd rfl differ
    | some file =>
      rw [kindOf, if_pos rfl, ← newAt file rfl]
      rw [← newAt file rfl] at located
      exact applyFile_created located contents
  | some before =>
    cases new with
    | none =>
      rw [kindOf, if_neg (Option.some_ne_none _), if_pos rfl]
      exact applyFile_deleted located contents
    | some after =>
      rw [kindOf, if_neg (Option.some_ne_none _), if_neg (Option.some_ne_none _), ← newAt after rfl]
      rw [← newAt after rfl] at located
      split
      · exact applyFile_changed located contents
      next eq =>
      have executables := not_not.1 (mt modeOf_ne_iff.2 eq)
      have kept := applyFile_kept located contents
      rw [show (entryOf before).executable = after.executable from executables] at kept
      exact kept

/-- The tree once the paths in `done` have their new files. -/
structure Reached (before after : String → Option (ProjectFile host)) (done : List String)
    (tree : Patch.Tree) : Prop where
  nodup : (tree.map Entry.path).Nodup
  member : ∀ entry, entry ∈ tree ↔ ∃ path file, entry = entryOf file ∧
    (path ∈ done ∧ after path = some file ∨ path ∉ done ∧ before path = some file)

def Keyed (files : String → Option (ProjectFile host)) : Prop :=
  ∀ path file, files path = some file → file.path = path

variable {before after : String → Option (ProjectFile host)} {done : List String} {tree : Patch.Tree}

variable {entry : Entry} {paths : List String} {buffer : Bytes}

lemma find?_of_nodup {path : Bytes} (nodup : (tree.map Entry.path).Nodup) (mem : entry ∈ tree)
    (located : entry.path = path) :
    (tree.find? fun entry => entry.path = path) = some entry := by
  cases found : tree.find? fun entry => entry.path = path with
  | none => exact absurd located (by simpa using List.find?_eq_none.1 found entry mem)
  | some other =>
    have eq : other.path = path := by simpa using List.find?_some found
    rw [List.inj_on_of_nodup_map nodup (List.mem_of_find?_eq_some found) mem (eq.trans located.symm)]

lemma Reached.located (reached : Reached before after done tree) (beforeKeyed : Keyed before)
    (afterKeyed : Keyed after) (fresh : path ∉ done) :
    (tree.find? fun entry => entry.path = encode path) = (before path).map entryOf := by
  cases found : before path with
  | none =>
    rw [Option.map_none, List.find?_eq_none]
    intro entry mem eq
    obtain ⟨other, file, rfl, new | old⟩ := (reached.member entry).1 mem
    · have paths := encode_injective (of_decide_eq_true eq)
      rw [afterKeyed other file new.2] at paths
      exact fresh (paths ▸ new.1)
    · have paths := encode_injective (of_decide_eq_true eq)
      rw [beforeKeyed other file old.2] at paths
      rw [← paths, old.2] at found
      cases found
  | some file =>
    have mem := (reached.member (entryOf file)).2 ⟨path, file, rfl, Or.inr ⟨fresh, found⟩⟩
    exact find?_of_nodup reached.nodup mem (congrArg encode (beforeKeyed path file found))

lemma Reached.step (reached : Reached before after done tree) (beforeKeyed : Keyed before)
    (afterKeyed : Keyed after) (path : String) : Reached before after (path :: done)
      (((after path).map entryOf).toList ++ without tree (encode path)) where
  nodup := by
    rw [List.map_append]
    refine List.Nodup.append ?_ (reached.nodup.sublist (List.filter_sublist.map _)) ?_
    · cases after path with
      | none => exact List.nodup_nil
      | some file => exact List.nodup_singleton _
    · intro text inside among
      obtain ⟨entry, kept, rfl⟩ := List.mem_map.1 among
      have apart : entry.path ≠ encode path := by simpa using (List.mem_filter.1 kept).2
      cases found : after path with
      | none => rw [found] at inside; exact List.not_mem_nil inside
      | some file =>
        rw [found] at inside
        have eq := List.mem_singleton.1 inside
        exact apart (eq.trans (congrArg encode (afterKeyed path file found)))
  member := by
    intro entry
    rw [List.mem_append, without, List.mem_filter, reached.member]
    constructor
    · rintro (new | ⟨⟨other, file, rfl, kept⟩, apart⟩)
      · obtain ⟨file, found, rfl⟩ : ∃ file, after path = some file ∧ entryOf file = entry := by
          simpa using new
        exact ⟨path, file, rfl, Or.inl ⟨List.mem_cons_self, found⟩⟩
      · have located : file.path = other := kept.elim (fun new => afterKeyed other file new.2)
          fun old => beforeKeyed other file old.2
        have different : other ≠ path := by
          rintro rfl
          simp [entryOf, located] at apart
        refine ⟨other, file, rfl, kept.imp ?_ ?_⟩
        · exact fun new => ⟨List.mem_cons_of_mem _ new.1, new.2⟩
        exact fun old => ⟨fun inside => old.1 (List.mem_of_ne_of_mem different inside), old.2⟩
    · rintro ⟨other, file, rfl, cases_⟩
      by_cases here : other = path
      · subst here
        have found : after other = some file := by
          rcases cases_ with new | old
          · exact new.2
          exact absurd List.mem_cons_self old.1
        exact .inl (by simp [found])
      · have located : file.path = other := cases_.elim (fun new => afterKeyed other file new.2)
          fun old => beforeKeyed other file old.2
        refine .inr ⟨⟨other, file, rfl, cases_.imp ?_ ?_⟩, ?_⟩
        · exact fun new => ⟨List.mem_of_ne_of_mem here new.1, new.2⟩
        · exact fun old => ⟨fun inside => old.1 (List.mem_cons_of_mem _ inside), old.2⟩
        · exact decide_eq_true fun eq => here (located.symm.trans (encode_injective eq))

lemma Reached.skip (reached : Reached before after done tree) (eq : before path = after path) :
    Reached before after (path :: done) tree where
  nodup := reached.nodup
  member := by
    intro entry
    rw [reached.member]
    constructor
    · rintro ⟨other, file, rfl, new | old⟩
      · exact ⟨other, file, rfl, Or.inl ⟨List.mem_cons_of_mem _ new.1, new.2⟩⟩
      · by_cases here : other = path
        · subst here
          exact ⟨other, file, rfl, Or.inl ⟨List.mem_cons_self, eq ▸ old.2⟩⟩
        refine ⟨other, file, rfl, Or.inr ⟨fun inside => ?_, old.2⟩⟩
        exact old.1 (List.mem_of_ne_of_mem here inside)
    · rintro ⟨other, file, rfl, new | old⟩
      · rcases List.mem_cons.1 new.1 with rfl | inside
        · by_cases known : other ∈ done
          · exact ⟨other, file, rfl, Or.inl ⟨known, new.2⟩⟩
          exact ⟨other, file, rfl, Or.inr ⟨known, eq ▸ new.2⟩⟩
        · exact ⟨other, file, rfl, Or.inl ⟨inside, new.2⟩⟩
      · exact ⟨other, file, rfl, Or.inr ⟨fun inside => old.1 (List.mem_cons_of_mem _ inside), old.2⟩⟩

def changed (before after : String → Option (ProjectFile host)) (paths : List String) : List String :=
  paths.filter fun path => before path ≠ after path

lemma Reached.run (beforeKeyed : Keyed before) (afterKeyed : Keyed after)
    (reached : Reached before after done tree) (distinct : (paths ++ done).Nodup) :
    ∃ next, ((changed before after paths).map fun path => patchOf path (before path) (after path)).foldlM
        applyFile tree = some next ∧ Reached before after (paths.reverse ++ done) next := by
  induction paths generalizing done tree with
  | nil => exact ⟨tree, rfl, reached⟩
  | cons path rest ih =>
    have fresh : path ∉ done := fun inside =>
      (List.nodup_cons.1 distinct).1 (List.mem_append_right _ inside)
    have later : (rest ++ path :: done).Nodup := (List.perm_middle.nodup_iff).2 distinct
    rw [List.reverse_cons, List.append_assoc, List.singleton_append]
    by_cases eq : before path = after path
    · have unchanged : changed before after (path :: rest) = changed before after rest :=
        List.filter_cons_of_neg (by simpa using eq)
      rw [unchanged]
      exact ih (reached.skip eq) later
    · have first : changed before after (path :: rest) = path :: changed before after rest :=
        List.filter_cons_of_pos (by simpa using eq)
      have located := reached.located beforeKeyed afterKeyed fresh
      have applied := applyFile_patchOf eq (afterKeyed path) located
      obtain ⟨next, run, ends⟩ := ih (reached.step beforeKeyed afterKeyed path) later
      refine ⟨next, ?_, ends⟩
      rw [first, List.map_cons, List.foldlM_cons, applied]
      exact run

lemma appendPieces_ok {pieces : List Bytes} {result : Bytes}
    (run : pieces.foldlM appendPiece buffer = .ok result) : result = buffer ++ pieces.flatten := by
  induction pieces generalizing buffer with
  | nil =>
    cases run
    simp
  | cons piece rest ih =>
    obtain ⟨middle, first, others⟩ := of_bind_ok run
    rw [appendPiece] at first
    split at first
    · exact absurd first reject_ne_ok
    cases first
    rw [ih others, List.flatten_cons, List.append_assoc]

lemma appendFiles_ok {pieces : String → List Bytes} {result : Bytes}
    (run : paths.foldlM (fun buffer path => (pieces path).foldlM appendPiece buffer) buffer = .ok result) :
    result = buffer ++ (paths.map fun path => (pieces path).flatten).flatten := by
  induction paths generalizing buffer with
  | nil =>
    cases run
    simp
  | cons path rest ih =>
    obtain ⟨middle, first, others⟩ := of_bind_ok run
    rw [ih others, appendPieces_ok first, List.map_cons, List.flatten_cons, List.append_assoc]

lemma flatten_changed (before after : String → Option (ProjectFile host)) (paths : List String) :
    (paths.map fun path => (filePieces path (before path) (after path)).flatten).flatten
      = ((changed before after paths).map fun path =>
        (filePieces path (before path) (after path)).flatten).flatten := by
  induction paths with
  | nil => rfl
  | cons path rest ih =>
    by_cases eq : before path = after path
    · have unchanged : changed before after (path :: rest) = changed before after rest :=
        List.filter_cons_of_neg (by simpa using eq)
      have nothing : filePieces path (before path) (after path) = [] := if_pos eq
      rw [unchanged, List.map_cons, List.flatten_cons, nothing, ih]
      rfl
    · have first : changed before after (path :: rest) = path :: changed before after rest :=
        List.filter_cons_of_pos (by simpa using eq)
      rw [first, List.map_cons, List.map_cons, List.flatten_cons, List.flatten_cons, ih]

variable {base result : ProjectSnapshot host} {patch : Bytes}

def changedPaths (base result : ProjectSnapshot host) : List String :=
  changed (fileAt base.files) (fileAt result.files) (allPaths base result)

lemma createPatch_ok (run : createPatch base result = .ok patch) :
    base.revision = result.revision ∧ patch = ((changedPaths base result).map fun path =>
      (filePieces path (fileAt base.files path) (fileAt result.files path)).flatten).flatten := by
  rw [createPatch] at run
  split at run
  · exact absurd run reject_ne_ok
  next eq =>
  refine ⟨not_not.1 eq, ?_⟩
  rw [appendFiles_ok run, List.nil_append]
  exact flatten_changed _ _ _

lemma filePieces_begins (path : String) (differ : old ≠ new) :
    ascii "diff --git " <+: (filePieces path old new).flatten := by
  rw [filePieces_flatten path differ]
  exact List.prefix_append _ _

lemma changedPaths_differ (mem : path ∈ changedPaths base result) :
    fileAt base.files path ≠ fileAt result.files path := by
  simpa using (List.mem_filter.1 mem).2

lemma length_le_flatten {texts : List Bytes} (filled : ∀ text ∈ texts, text ≠ []) :
    texts.length ≤ texts.flatten.length := by
  induction texts with
  | nil => exact le_rfl
  | cons text rest ih =>
    have more := ih fun other mem => filled other (List.mem_cons_of_mem _ mem)
    have some_ := List.length_pos_of_ne_nil (filled text List.mem_cons_self)
    rw [List.flatten_cons, List.length_append, List.length_cons]
    omega

lemma piece_ne_nil (differ : old ≠ new) : (filePieces path old new).flatten ≠ [] := by
  intro empty
  have begins := filePieces_begins path differ
  rw [empty, List.prefix_nil] at begins
  exact absurd begins (by decide +kernel)

lemma reads_patch (run : createPatch base result = .ok patch) :
    whole (many filePatch patch.length) patch = some ((changedPaths base result).map fun path =>
      patchOf path (fileAt base.files path) (fileAt result.files path)) := by
  obtain ⟨-, text⟩ := createPatch_ok run
  let pieces := (changedPaths base result).map fun path =>
    ((filePieces path (fileAt base.files path) (fileAt result.files path)).flatten,
      patchOf path (fileAt base.files path) (fileAt result.files path))
  have texts : (pieces.map Prod.fst).flatten = patch := by
    rw [text, List.map_map]
    rfl
  have reads : ∀ piece ∈ pieces, Reads Ends filePatch piece.1 piece.2 := by
    intro piece mem
    obtain ⟨path, inside, rfl⟩ := List.mem_map.1 mem
    exact reads_filePatch path (changedPaths_differ inside)
  have filled : ∀ piece ∈ pieces, piece.1 ≠ [] := by
    intro piece mem
    obtain ⟨path, inside, rfl⟩ := List.mem_map.1 mem
    exact piece_ne_nil (changedPaths_differ inside)
  have comes : ∀ piece ∈ pieces, ∀ rest, Ends (piece.1 ++ rest) := by
    intro piece mem rest
    obtain ⟨path, inside, rfl⟩ := List.mem_map.1 mem
    exact .inr ((filePieces_begins path (changedPaths_differ inside)).trans (List.prefix_append _ _))
  have enough : pieces.length ≤ patch.length := by
    have texted : ∀ text ∈ pieces.map Prod.fst, text ≠ [] := by
      intro text mem
      obtain ⟨piece, inside, rfl⟩ := List.mem_map.1 mem
      exact filled piece inside
    have shorter := length_le_flatten texted
    rwa [texts, List.length_map] at shorter
  have found := (reads_many enough reads filled (Or.inl rfl) comes).whole rfl
  rw [texts, List.map_map] at found
  exact found

lemma fileAt_some {files : List (ProjectFile host)} {file : ProjectFile host}
    (found : fileAt files path = some file) : file ∈ files ∧ file.path = path :=
  ⟨List.mem_of_find?_eq_some found, by simpa using List.find?_some found⟩

lemma fileAt_of_mem (snapshot : ProjectSnapshot host) {file : ProjectFile host}
    (mem : file ∈ snapshot.files) : fileAt snapshot.files file.path = some file := by
  cases found : fileAt snapshot.files file.path with
  | none => exact absurd (decide_eq_true rfl) (List.find?_eq_none.1 found file mem)
  | some other =>
    obtain ⟨inside, eq⟩ := fileAt_some found
    rw [snapshot.eq_of_path inside mem eq]

lemma mem_allPaths :
    path ∈ allPaths base result ↔ path ∈ (base.files ++ result.files).map ProjectFile.path := by
  rw [allPaths, (List.perm_insertionSort _ _).mem_iff, List.mem_dedup]

lemma treeOf_nodup (snapshot : ProjectSnapshot host) :
    ((treeOf snapshot.files).map Entry.path).Nodup := by
  have paths : (treeOf snapshot.files).map Entry.path
      = (snapshot.files.map ProjectFile.path).map encode := by
    rw [treeOf, List.map_map, List.map_map]
    rfl
  rw [paths]
  exact snapshot.paths_nodup.map encode_injective

lemma mem_treeOf {files : List (ProjectFile host)} :
    entry ∈ treeOf files ↔ ∃ file ∈ files, entryOf file = entry := List.mem_map

lemma reached_base (snapshot : ProjectSnapshot host) (after : String → Option (ProjectFile host)) :
    Reached (fileAt snapshot.files) after [] (treeOf snapshot.files) where
  nodup := treeOf_nodup snapshot
  member := by
    intro entry
    rw [mem_treeOf]
    constructor
    · rintro ⟨file, inside, rfl⟩
      exact ⟨file.path, file, rfl, Or.inr ⟨List.not_mem_nil, fileAt_of_mem snapshot inside⟩⟩
    rintro ⟨path, file, rfl, new | old⟩
    · exact absurd new.1 List.not_mem_nil
    · exact ⟨file, (fileAt_some old.2).1, rfl⟩

lemma conflictFree_treeOf (snapshot : ProjectSnapshot host) :
    conflictFree (treeOf snapshot.files) = true := by
  rw [conflictFree, List.all_eq_true]
  intro upper upperIn
  rw [List.all_eq_true]
  intro lower lowerIn
  obtain ⟨above, aboveIn, rfl⟩ := mem_treeOf.1 upperIn
  obtain ⟨below, belowIn, rfl⟩ := mem_treeOf.1 lowerIn
  rw [Bool.not_eq_true', Bool.eq_false_iff]
  intro marked
  obtain ⟨after, eq⟩ := List.isPrefixOf_iff_prefix.1 marked
  have slash : encodeChars ['/'] = [47] := by decide +kernel
  have texts : encodeChars (above.path.toList ++ ['/']) ++ after = encodeChars below.path.toList := by
    rw [encodeChars_append, slash]
    exact eq
  obtain ⟨rest, split_, -⟩ := encodeChars_prefix texts
  rw [List.append_assoc, List.singleton_append] at split_
  exact snapshot.legal.compatible.not_parent (List.mem_map_of_mem aboveIn) (List.mem_map_of_mem belowIn)
    (mem_parents_iff.2 ⟨rest, split_⟩)

lemma perm_treeOf {snapshot : ProjectSnapshot host} {tree : Patch.Tree}
    (nodup : (tree.map Entry.path).Nodup) (eq : ∀ entry, entry ∈ tree ↔ entry ∈ treeOf snapshot.files) :
    tree.Perm (treeOf snapshot.files) :=
  (List.perm_ext_iff_of_nodup (nodup.of_map _) ((treeOf_nodup snapshot).of_map _)).2 eq

lemma conflictFree_perm {tree other : Patch.Tree} (eq : tree.Perm other) :
    conflictFree tree = conflictFree other := by
  rw [conflictFree, conflictFree, eq.all_eq]
  congr
  funext upper
  exact eq.all_eq

lemma applyPatch_createPatch (run : createPatch base result = .ok patch) :
    ∃ tree, applyPatch patch (treeOf base.files) = some tree ∧ tree.Perm (treeOf result.files) := by
  have beforeKeyed : Keyed (fileAt base.files) := fun _ _ found => (fileAt_some found).2
  have afterKeyed : Keyed (fileAt result.files) := fun _ _ found => (fileAt_some found).2
  have distinct : (allPaths base result ++ []).Nodup := by
    rw [List.append_nil]
    exact (List.perm_insertionSort _ _).nodup_iff.2 (List.nodup_dedup _)
  obtain ⟨tree, applied, reached⟩ :=
    (reached_base base (fileAt result.files)).run beforeKeyed afterKeyed distinct
  have eq : ∀ entry, entry ∈ tree ↔ entry ∈ treeOf result.files := by
    intro entry
    rw [reached.member, mem_treeOf]
    constructor
    · rintro ⟨path, file, rfl, new | old⟩
      · exact ⟨file, (fileAt_some new.2).1, rfl⟩
      · have inside : path ∈ allPaths base result := mem_allPaths.2 (by
          rw [← beforeKeyed path file old.2]
          exact List.mem_map_of_mem (List.mem_append_left _ (fileAt_some old.2).1))
        exact absurd (by simpa using inside) old.1
    · rintro ⟨file, inside, rfl⟩
      refine ⟨file.path, file, rfl, Or.inl ⟨?_, fileAt_of_mem result inside⟩⟩
      have known := mem_allPaths.2 (List.mem_map_of_mem (List.mem_append_right base.files inside))
      simpa using known
  have permuted := perm_treeOf reached.nodup eq
  refine ⟨tree, ?_, permuted⟩
  have free : conflictFree tree = true := (conflictFree_perm permuted).trans (conflictFree_treeOf result)
  rw [applyPatch, reads_patch run]
  change ((((changedPaths base result).map _).foldlM applyFile _).bind _) = _
  rw [changedPaths, applied, Option.bind_some, if_pos free]

end Obsion.Sandbox
