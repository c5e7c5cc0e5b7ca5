import Obsion.Base.Bytes
import Obsion.Base.Dumps

/-! # Project snapshots

The validated copy of a project: paths, files and the snapshot of a revision.  The Unicode
database, the secret scan and the digest are parameters.  A value that its constructor
rejects cannot be built here either. -/

namespace Obsion.Sandbox

structure Host where
  /-- `unicodedata.normalize("NFC", text)` -/
  nfc : String → String
  /-- `unicodedata.category(char).startswith("C")` -/
  isOther : Char → Bool
  casefold : String → String
  /-- `scan_secret_text` finds something in the text of the file at the path. -/
  scanSecretText : (text path : String) → Bool
  /-- `hashlib.sha256(content).hexdigest()` -/
  sha256 : Bytes → String

/-- `ProjectRejected`, with its fixed reason. -/
structure ProjectRejected where
  reason : String
  deriving DecidableEq, Repr

def reject {α : Type} (reason : String) : Except ProjectRejected α := .error ⟨reason⟩

def maxProjectFiles : Nat := 500
def maxProjectEntries : Nat := 2000
def maxFileBytes : Nat := 262144
def maxProjectBytes : Nat := 8388608
def maxArchiveBytes : Nat := maxProjectBytes + 1048576
def maxManifestBytes : Nat := 524288

def blockedParts : List String :=
  [".git", ".hg", ".svn", ".ssh", ".aws", ".azure", ".kube", ".gnupg", ".config", ".dws", "dws",
    ".dingtalk", ".dingtalk-workspace", ".obsion", ".netrc", ".npmrc", ".pypirc", ".gitconfig",
    ".git-credentials", "credentials", "credentials.json", "kubeconfig", "id_rsa", "id_dsa",
    "id_ecdsa", "id_ed25519"]

def keySuffixes : List String := [".pem", ".key", ".p12", ".pfx", ".jks", ".keystore"]

def deviceNames : List String :=
  ["con", "prn", "aux", "nul"] ++
    ["1", "2", "3", "4", "5", "6", "7", "8", "9"].flatMap fun digit => ["com" ++ digit, "lpt" ++ digit]

/-- `(?:con|prn|aux|nul|com[1-9]|lpt[1-9])(?:\..*)?` -/
def isDevice (name : String) : Bool :=
  deviceNames.any fun device =>
    match name.toList.dropPrefix? device.toList with
    | none => false
    | some [] => true
    | some (first :: rest) => first == '.' && !rest.contains '\n'

/-- `value.split("/")` -/
def splitPath (path : String) : List String := (path.toList.splitOn '/').map String.ofList

def joinPath (parts : List String) : String :=
  String.ofList (List.intercalate ['/'] (parts.map String.toList))

def invalidPart (part : String) : Bool :=
  part == "" || part == "." || part == ".." || endsWith part " " || endsWith part "."
    || decide (255 < (encode part).length)

def reservedPart (host : Host) (part : String) : Bool :=
  let lowered := host.casefold part
  blockedParts.contains lowered || startsWith lowered ".env"
    || (keySuffixes.any fun suffix => endsWith lowered suffix) || isDevice lowered

def validateProjectPath (host : Host) (value : String) : Except ProjectRejected Unit :=
  if value == "" || decide (1024 < value.length) then reject "project_path_invalid"
  else if host.nfc value != value
      || value.toList.any fun char => host.isOther char || ['\\', ':', '"'].contains char then
    reject "project_path_invalid"
  else if decide (32 < (splitPath value).length) || (splitPath value).any invalidPart then
    reject "project_path_invalid"
  else if (splitPath value).any (reservedPart host) then reject "project_path_reserved"
  else .ok ()

/-- `[0-9a-f]` -/
def isLowerHex (char : Char) : Bool :=
  ('0' ≤ char && char ≤ '9') || ('a' ≤ char && char ≤ 'f')

/-- `re.fullmatch(r"[0-9a-f]{40}|[0-9a-f]{64}", value)` -/
def isObjectId (value : String) : Bool :=
  (value.length == 40 || value.length == 64) && value.toList.all isLowerHex

def nilUuid : Uuid := .repeating 0

def checkRevision (organizationId workspaceId repositoryId connectorVersionId : Uuid)
    (commitId treeId : String) : Except ProjectRejected Unit :=
  if [organizationId, workspaceId, repositoryId, connectorVersionId].contains nilUuid then
    reject "project_revision_invalid"
  else if !isObjectId commitId || !isObjectId treeId || commitId.length != treeId.length then
    reject "project_revision_invalid"
  else .ok ()

structure ProjectRevision where
  organizationId : Uuid
  workspaceId : Uuid
  repositoryId : Uuid
  connectorVersionId : Uuid
  commitId : String
  treeId : String
  valid : checkRevision organizationId workspaceId repositoryId connectorVersionId commitId treeId
    = .ok ()
  deriving DecidableEq

def ProjectRevision.toWire (revision : ProjectRevision) : Json :=
  .obj [("organization_id", .str revision.organizationId.str),
    ("workspace_id", .str revision.workspaceId.str),
    ("repository_id", .str revision.repositoryId.str),
    ("connector_version_id", .str revision.connectorVersionId.str),
    ("commit_id", .str revision.commitId),
    ("tree_id", .str revision.treeId)]

def checkFile (host : Host) (path : String) (content : Bytes) : Except ProjectRejected Unit := do
  validateProjectPath host path
  if maxFileBytes < content.length then reject "project_file_size_invalid"
  else match decode? content with
    | none => reject "project_file_not_utf8"
    | some text =>
      if text.toList.contains '\x00' then reject "project_file_not_text"
      else if host.scanSecretText text path then reject "project_secret_detected"
      else .ok ()

structure ProjectFile (host : Host) where
  path : String
  content : Bytes
  executable : Bool
  valid : checkFile host path content = .ok ()
  deriving DecidableEq

variable {host : Host}

def ProjectFile.metadata (file : ProjectFile host) : Json :=
  .obj [("path", .str file.path), ("sha256", .str (host.sha256 file.content)),
    ("size", .int file.content.length),
    ("executable", .bool file.executable)]

/-! ## Snapshots -/

def sortFiles (files : List (ProjectFile host)) : List (ProjectFile host) :=
  files.insertionSort fun left right => left.path ≤ right.path

def parents (path : String) : List String :=
  let parts := splitPath path
  (List.range (parts.length - 1)).map fun index => joinPath (parts.take (index + 1))

/-- The sets of the loop over the paths: folded paths, and folded directories by their names. -/
structure Seen where
  paths : List String
  directories : List (String × String)

def Seen.directory (seen : Seen) (key : String) : Option String :=
  (seen.directories.find? fun entry => entry.1 = key).map Prod.snd

def seeParent (host : Host) (seen : Seen) (parent : String) : Except ProjectRejected Seen :=
  let key := host.casefold parent
  if key ∈ seen.paths then reject "project_path_collision"
  else match seen.directory key with
    | some found =>
      if found ≠ parent then reject "project_path_collision" else .ok seen
    | none => .ok { seen with directories := seen.directories ++ [(key, parent)] }

def seePath (host : Host) (seen : Seen) (path : String) : Except ProjectRejected Seen :=
  let folded := host.casefold path
  if folded ∈ seen.paths ∨ (seen.directory folded).isSome then reject "project_path_collision"
  else do
    let seen ← (parents path).foldlM (seeParent host) seen
    pure { seen with paths := seen.paths ++ [folded] }

def seePaths (host : Host) (paths : List String) : Except ProjectRejected Seen :=
  paths.foldlM (seePath host) ⟨[], []⟩

def manifestOf (revision : ProjectRevision) (files : List (ProjectFile host)) : Json :=
  .obj [("version", .int 1), ("revision", revision.toWire),
    ("files", .arr ((sortFiles files).map ProjectFile.metadata))]

def canonical (value : Json) : Bytes := encode value.dumps

def checkSnapshot (revision : ProjectRevision) (files : List (ProjectFile host)) :
    Except ProjectRejected Unit :=
  if maxProjectFiles < files.length then reject "project_file_count_exceeded"
  else if maxProjectBytes < (files.map fun file => file.content.length).sum then
    reject "project_size_exceeded"
  else do
    let seen ← seePaths host ((sortFiles files).map ProjectFile.path)
    if maxProjectEntries < seen.paths.length + seen.directories.length then
      reject "project_entry_count_exceeded"
    else if maxManifestBytes < (canonical (manifestOf revision files)).length then
      reject "project_manifest_size_exceeded"
    else .ok ()

structure ProjectSnapshot (host : Host) where
  revision : ProjectRevision
  files : List (ProjectFile host)
  valid : checkSnapshot revision files = .ok ()

def ProjectSnapshot.manifest (snapshot : ProjectSnapshot host) : Json :=
  manifestOf snapshot.revision snapshot.files

def ProjectSnapshot.fingerprint (snapshot : ProjectSnapshot host) : String :=
  host.sha256 (canonical snapshot.manifest)

end Obsion.Sandbox
