import Obsion.Lib.Reader

/-! # A reference applier for Git patches

The subset of the format without renames, copies and binary files: quoted paths with octal
escapes, file headers with their mode lines, and at most one hunk for each file, with exact
line counts and the marker for a missing newline.  A tree is a list of files with distinct
paths; a patch is applied to it file by file. -/

namespace Obsion.Lib.Patch

open Reader

structure Entry where
  path : List UInt8
  content : List UInt8
  executable : Bool
  deriving DecidableEq

abbrev Tree := List Entry

def ascii (text : String) : List UInt8 := text.toList.map fun char => UInt8.ofNat char.toNat

def octalDigit (byte : UInt8) : Option Nat :=
  if 48 ≤ byte.toNat ∧ byte.toNat ≤ 55 then some (byte.toNat - 48) else none

def octal (high middle low : UInt8) : Option UInt8 := do
  let high ← octalDigit high
  let middle ← octalDigit middle
  let low ← octalDigit low
  let value := 64 * high + 8 * middle + low
  if value < 256 then some (UInt8.ofNat value) else none

def unquote : Reader UInt8 (List UInt8)
  | [] => none
  | byte :: rest =>
    if byte = 34 then some ([], rest)
    else if byte = 92 then
      match rest with
      | high :: middle :: low :: rest =>
        (octal high middle low).bind fun value =>
          (unquote rest).map fun found => (value :: found.1, found.2)
      | _ => none
    else (unquote rest).map fun found => (byte :: found.1, found.2)

lemma unquote_end (rest : List UInt8) : unquote (34 :: rest) = some ([], rest) := by
  rw [unquote.eq_def]
  exact if_pos rfl

lemma unquote_plain {byte : UInt8} (open_ : byte ≠ 34) (bare : byte ≠ 92) (rest : List UInt8) :
    unquote (byte :: rest) = (unquote rest).map fun found => (byte :: found.1, found.2) := by
  rw [unquote.eq_def]
  exact (if_neg open_).trans (if_neg bare)

lemma unquote_octal {high middle low value : UInt8} (digits : octal high middle low = some value)
    (rest : List UInt8) : unquote (92 :: high :: middle :: low :: rest)
      = (unquote rest).map fun found => (value :: found.1, found.2) := by
  rw [unquote.eq_def]
  change (octal high middle low).bind _ = _
  rw [digits]
  rfl

/-- A quoted path on one side of the patch, without the name of the side. -/
def sidePath (side : String) : Reader UInt8 (List UInt8) := do
  literal (ascii "\"")
  let text ← unquote
  ofOption (text.dropPrefix? (ascii side))

inductive Kind
  | created (executable : Bool)
  | deleted (executable : Bool)
  /-- A file that stays, with its modes where they differ. -/
  | modified (modes : Option (Bool × Bool))
  deriving DecidableEq

def mode : Reader UInt8 Bool := do
  let text ← until_ 10
  if text = ascii "100644" then pure false
  else if text = ascii "100755" then pure true
  else fail

def kind : Reader UInt8 Kind := do
  if ← peek (ascii "new file mode ") then
    literal (ascii "new file mode ")
    let executable ← mode
    pure (.created executable)
  else if ← peek (ascii "deleted file mode ") then
    literal (ascii "deleted file mode ")
    let executable ← mode
    pure (.deleted executable)
  else if ← peek (ascii "old mode ") then
    literal (ascii "old mode ")
    let before ← mode
    literal (ascii "new mode ")
    let after ← mode
    pure (.modified (some (before, after)))
  else pure (.modified none)

/-! ## Hunks -/

/-- The lines on both sides of a hunk, with their newlines. -/
structure Hunk where
  oldStart : Nat
  oldCount : Nat
  newStart : Nat
  newCount : Nat
  before : List (List UInt8)
  after : List (List UInt8)

def number? (digits : List UInt8) : Option Nat :=
  if !digits.isEmpty && digits.all fun byte => decide (48 ≤ byte.toNat ∧ byte.toNat ≤ 57) then
    some (Nat.ofDigitChars 10 (digits.map fun byte => Char.ofNat byte.toNat) 0)
  else none

def number (mark : UInt8) : Reader UInt8 Nat := do
  let digits ← until_ mark
  ofOption (number? digits)

def noNewline : List UInt8 := ascii "\\ No newline at end of file\n"

/-- The text of a line, without its newline if the marker follows. -/
def line : Reader UInt8 (List UInt8) := do
  let text ← until_ 10
  if ← peek noNewline then
    literal noNewline
    pure text
  else pure (text ++ [10])

def hunkLines : Nat → Nat → Nat → Reader UInt8 (List (List UInt8) × List (List UInt8))
  | 0, old, new => if old = 0 ∧ new = 0 then pure ([], []) else fail
  | fuel + 1, old, new =>
    if old = 0 ∧ new = 0 then pure ([], [])
    else do
      let tag ← symbol
      let text ← line
      if tag = 45 ∧ 0 < old then
        let rest ← hunkLines fuel (old - 1) new
        pure (text :: rest.1, rest.2)
      else if tag = 43 ∧ 0 < new then
        let rest ← hunkLines fuel old (new - 1)
        pure (rest.1, text :: rest.2)
      else if tag = 32 ∧ 0 < old ∧ 0 < new then
        let rest ← hunkLines fuel (old - 1) (new - 1)
        pure (text :: rest.1, text :: rest.2)
      else fail

def hunk : Reader UInt8 Hunk := do
  literal (ascii "@@ -")
  let oldStart ← number 44
  let oldCount ← number 32
  literal (ascii "+")
  let newStart ← number 44
  let newCount ← number 32
  literal (ascii "@@\n")
  let lines ← hunkLines (oldCount + newCount) oldCount newCount
  pure ⟨oldStart, oldCount, newStart, newCount, lines.1, lines.2⟩

structure FilePatch where
  path : List UInt8
  kind : Kind
  hunk : Option Hunk

def hunkSide (side : String) (absent : Bool) (path : List UInt8) : Reader UInt8 Unit :=
  if absent then literal (ascii "/dev/null")
  else do
    let found ← sidePath side
    if found = path then pure () else fail

def Kind.creates : Kind → Bool
  | .created _ => true
  | _ => false

def Kind.deletes : Kind → Bool
  | .deleted _ => true
  | _ => false

def contents (path : List UInt8) (kind : Kind) : Reader UInt8 (Option Hunk) := do
  if ← peek (ascii "--- ") then
    literal (ascii "--- ")
    hunkSide "a/" kind.creates path
    literal (ascii "\n+++ ")
    hunkSide "b/" kind.deletes path
    literal (ascii "\n")
    let found ← hunk
    pure (some found)
  else pure none

def filePatch : Reader UInt8 FilePatch := do
  literal (ascii "diff --git ")
  let path ← sidePath "a/"
  literal (ascii " ")
  let other ← sidePath "b/"
  literal (ascii "\n")
  if path = other then
    let kind ← kind
    let hunk ← contents path kind
    pure ⟨path, kind, hunk⟩
  else fail

/-- The lines of a file, each with its newline; the last one may lack it. -/
def splitLines : List UInt8 → List (List UInt8)
  | [] => []
  | byte :: rest =>
    if byte = 10 then [10] :: splitLines rest
    else match splitLines rest with
      | [] => [[byte]]
      | first :: others => (byte :: first) :: others

/-- The number of lines before the hunk; an empty side names the line before it. -/
def offset (start count : Nat) : Option Nat :=
  if count = 0 then some start else if start = 0 then none else some (start - 1)

def applyHunk (hunk : Hunk) (content : List UInt8) : Option (List UInt8) := do
  let lines := splitLines content
  let position ← offset hunk.oldStart hunk.oldCount
  let target ← offset hunk.newStart hunk.newCount
  let result := lines.take position ++ hunk.after ++ lines.drop (position + hunk.oldCount)
  if position = target ∧ position ≤ lines.length
      ∧ (lines.drop position).take hunk.oldCount = hunk.before
      ∧ splitLines result.flatten = result then
    some result.flatten
  else none

def applyContents (hunk : Option Hunk) (content : List UInt8) : Option (List UInt8) :=
  match hunk with
  | none => some content
  | some hunk => applyHunk hunk content

def applyFile (tree : Tree) (patch : FilePatch) : Option Tree :=
  let rest := tree.filter fun entry => entry.path ≠ patch.path
  match patch.kind, tree.find? fun entry => entry.path = patch.path with
  | .created executable, none =>
    (applyContents patch.hunk []).map fun content => ⟨patch.path, content, executable⟩ :: rest
  | .deleted executable, some old =>
    if old.executable = executable ∧ applyContents patch.hunk old.content = some [] then some rest
    else none
  | .modified none, some old =>
    (applyContents patch.hunk old.content).map fun content =>
      ⟨patch.path, content, old.executable⟩ :: rest
  | .modified (some (before, after)), some old =>
    if old.executable = before then
      (applyContents patch.hunk old.content).map fun content =>
        ⟨patch.path, content, after⟩ :: rest
    else none
  | _, _ => none

def conflictFree (tree : Tree) : Bool :=
  tree.all fun upper => tree.all fun lower => !(upper.path ++ [47]).isPrefixOf lower.path

def applyPatch (patch : List UInt8) (tree : Tree) : Option Tree := do
  let files ← whole (many filePatch patch.length) patch
  let result ← files.foldlM applyFile tree
  if conflictFree result then some result else none

section

variable {tree : Tree} {path content : List UInt8} {found : Option Hunk} {old : Entry}

def without (tree : Tree) (path : List UInt8) : Tree := tree.filter fun entry => entry.path ≠ path

lemma applyFile_created {executable : Bool} (absent : (tree.find? fun entry => entry.path = path) = none)
    (written : applyContents found [] = some content) :
    applyFile tree ⟨path, .created executable, found⟩
      = some (⟨path, content, executable⟩ :: without tree path) := by
  simp only [applyFile, absent, written, Option.map_some]
  rfl

section
variable (located : (tree.find? fun entry => entry.path = path) = some old)
include located

lemma applyFile_deleted (emptied : applyContents found old.content = some []) :
    applyFile tree ⟨path, .deleted old.executable, found⟩ = some (without tree path) := by
  simp only [applyFile, located]
  exact if_pos ⟨trivial, emptied⟩

lemma applyFile_kept (written : applyContents found old.content = some content) :
    applyFile tree ⟨path, .modified none, found⟩
      = some (⟨path, content, old.executable⟩ :: without tree path) := by
  simp only [applyFile, located, written, Option.map_some]
  rfl

lemma applyFile_changed {executable : Bool}
    (written : applyContents found old.content = some content) :
    applyFile tree ⟨path, .modified (some (old.executable, executable)), found⟩
      = some (⟨path, content, executable⟩ :: without tree path) := by
  simp only [applyFile, located, written, Option.map_some, if_true]
  rfl

end

end

end Obsion.Lib.Patch
