import Obsion.Sandbox.Snapshot

/-! # Deliveries

The patch between two snapshots of one revision, written file by file in the order of the
paths, and the manifest that goes with it. -/

namespace Obsion.Sandbox

variable {host : Host}

def maxPatchBytes : Nat := maxProjectBytes * 2 + 1048576

/-! ## Pieces of the patch -/

/-- One byte of a path: itself, or `f"\\{value:03o}"`. -/
def quotedByte (value : UInt8) : List Char :=
  if 32 ≤ value.toNat ∧ value.toNat < 127 ∧ value ≠ 34 ∧ value ≠ 92 then [Char.ofNat value.toNat]
  else ['\\', Nat.digitChar (value.toNat / 64), Nat.digitChar (value.toNat / 8 % 8),
    Nat.digitChar (value.toNat % 8)]

def quotedPath (side path : String) : String :=
  String.ofList ('"' :: ((encode (side ++ path)).flatMap quotedByte ++ ['"']))

def lines (content : Bytes) : List Bytes :=
  if content = [] then []
  else
    let parts := content.splitOn 10
    let last := parts.getLast (List.splitOn_ne_nil 10 content)
    parts.dropLast.map (fun part => part ++ [10]) ++ if last = [] then [] else [last]

def noNewlineMark : Bytes := encode "\n\\ No newline at end of file\n"

def modeOf (file : Option (ProjectFile host)) : String :=
  match file with
  | some file => if file.executable then "100755" else "100644"
  | none => "100644"

def contentOf (file : Option (ProjectFile host)) : Bytes :=
  match file with
  | some file => file.content
  | none => []

def linePieces (tag : Bytes) (line : Bytes) : List Bytes :=
  if [10].isSuffixOf line then [tag ++ line] else [tag ++ line, noNewlineMark]

def hunkHeader (oldLines newLines : List Bytes) : String :=
  "@@ -" ++ (if oldLines = [] then "0" else "1") ++ "," ++ toString oldLines.length ++ " +"
    ++ (if newLines = [] then "0" else "1") ++ "," ++ toString newLines.length ++ " @@\n"

def contentPieces (path : String) (old new : Option (ProjectFile host)) : List Bytes :=
  if contentOf old = contentOf new then []
  else
    [encode ("--- " ++ (if old.isSome then quotedPath "a/" path else "/dev/null") ++ "\n+++ "
        ++ (if new.isSome then quotedPath "b/" path else "/dev/null") ++ "\n"),
      encode (hunkHeader (lines (contentOf old)) (lines (contentOf new)))]
      ++ (lines (contentOf old)).flatMap (linePieces (encode "-"))
      ++ (lines (contentOf new)).flatMap (linePieces (encode "+"))

/-- The pieces that say whether the file comes, goes or changes its mode. -/
def modePieces (old new : Option (ProjectFile host)) : List Bytes :=
  if old = none then [encode ("new file mode " ++ modeOf new ++ "\n")]
  else if new = none then [encode ("deleted file mode " ++ modeOf old ++ "\n")]
  else if modeOf old ≠ modeOf new then
    [encode ("old mode " ++ modeOf old ++ "\nnew mode " ++ modeOf new ++ "\n")]
  else []

def filePieces (path : String) (old new : Option (ProjectFile host)) : List Bytes :=
  if old = new then []
  else [encode ("diff --git " ++ quotedPath "a/" path ++ " " ++ quotedPath "b/" path ++ "\n")]
    ++ modePieces old new ++ contentPieces path old new

def appendPiece (buffer value : Bytes) : Except ProjectRejected Bytes :=
  if maxPatchBytes < buffer.length + value.length then reject "project_patch_size_exceeded"
  else .ok (buffer ++ value)

/-- `files.get(path)`; the paths of a snapshot are distinct. -/
def fileAt (files : List (ProjectFile host)) (path : String) : Option (ProjectFile host) :=
  files.find? fun file => file.path = path

def allPaths (before after : ProjectSnapshot host) : List String :=
  ((before.files ++ after.files).map ProjectFile.path).dedup.insertionSort (· ≤ ·)

def createPatch (before after : ProjectSnapshot host) : Except ProjectRejected Bytes :=
  if before.revision ≠ after.revision then reject "project_revision_mismatch"
  else (allPaths before after).foldlM (fun buffer path =>
    (filePieces path (fileAt before.files path) (fileAt after.files path)).foldlM appendPiece buffer) []

def metadataOf (file : Option (ProjectFile host)) : Json :=
  match file with
  | some file => file.metadata
  | none => .null

def changes (before after : ProjectSnapshot host) : List Json :=
  (allPaths before after).filterMap fun path =>
    if fileAt before.files path ≠ fileAt after.files path then
      some (.obj [("path", .str path), ("before", metadataOf (fileAt before.files path)),
        ("after", metadataOf (fileAt after.files path))])
    else none

/-- A delivery with the wires of its observations. -/
structure ProjectDelivery (host : Host) where
  base : ProjectSnapshot host
  result : ProjectSnapshot host
  commands : List Json
  patch : Bytes
  valid : createPatch base result = .ok patch

def ProjectDelivery.changes (delivery : ProjectDelivery host) : List Json :=
  Sandbox.changes delivery.base delivery.result

def ProjectDelivery.manifest (delivery : ProjectDelivery host) : Json :=
  .obj [("version", .int 1), ("revision", delivery.base.revision.toWire),
    ("base_fingerprint", .str delivery.base.fingerprint),
    ("result_fingerprint", .str delivery.result.fingerprint),
    ("patch_sha256", .str (host.sha256 delivery.patch)),
    ("patch_bytes", .int delivery.patch.length),
    ("changes", .arr delivery.changes),
    ("commands", .arr delivery.commands),
    ("verification", .str "NOT_EVALUATED"),
    ("unresolved", .arr [.str "independent_verification_required"])]

end Obsion.Sandbox
