import Mathlib.Data.List.Lex
import NightRecon.DocumentMembers
import NightRecon.Lib.Collect
import NightRecon.Lib.Dict
import NightRecon.Lib.JsonStrict
import NightRecon.Lib.Proc
import NightRecon.Lib.PurePosixPath
import NightRecon.Lib.Sha256

/-!
# Backup and recovery of workspaces

`nightrecon_red_engine/workspace_recovery.py`, without the encryption: a workspace root is written
into an archive with a manifest, and an archive is verified and written out again.

* `WorkspaceRoot` — what lies below a workspace root; `ArchiveFile` — an archive, as the list of
  its members;
* `createWorkspaceBackup`, `loadVerifiedManifest`, `restoreWorkspaceBackup`;
* `Admits` — the nodes of a root are files, and its entries are theirs (`sourceEntries_admits`);
* `readEntries_itemOf` — the items of a backup's manifest give its entries back, and so
  `Admits.verified`: every backup verifies.

`repr` is the text of a name in a message, `isOne` tells the float literals that are `1`, and
`fileDigest` is the digest of the file that the members of an archive are written to.
-/

namespace NightRecon.RedEngine.WorkspaceRecovery

open NightRecon.Lib
open NightRecon.Lib.Checks
open NightRecon.Lib.Collect
open NightRecon.Lib.Json (decodeUtf8 encode)
open NightRecon.Lib.PurePosixPath
open NightRecon.Documents
open NightRecon.DocumentMembers

def backupSchemaVersion : Int := 1

def manifestName : String := "nightrecon-workspace-manifest.json"

def maxBackupFiles : Nat := 5000

def maxBackupBytes : Nat := 512 * 1024 * 1024

/-- Source: `workspace_recovery.py` `WorkspaceBackupEntry`. -/
structure WorkspaceBackupEntry where
  path : String
  size : Nat
  sha256 : String
  deriving DecidableEq

/-- Source: `workspace_recovery.py` `WorkspaceBackupEntry.to_dict`. -/
def WorkspaceBackupEntry.toDict (entry : WorkspaceBackupEntry) : Json :=
  .obj [("path", .str entry.path), ("size", .int entry.size), ("sha256", .str entry.sha256)]

/-- Source: `workspace_recovery.py` `WorkspaceBackupReport`. -/
structure WorkspaceBackupReport where
  schemaVersion : Int
  fileCount : Nat
  totalBytes : Nat
  manifestSha256 : String
  archiveSha256 : String
  authorizationEffect : String

/-- Source: `workspace_recovery.py` `_sha256_bytes`. -/
@[irreducible] def sha256Bytes (data : List UInt8) : String :=
  Sha256.hexdigest (Sha256.sha256 (data.map UInt8.toNat))

/-- `sum(entry.size for entry in entries)`. -/
def totalBytes (entries : List WorkspaceBackupEntry) : Nat := (entries.map (·.size)).sum

/-- The report of entries and the bytes of their manifest. -/
def reportOf (manifest : List UInt8) (entries : List WorkspaceBackupEntry)
    (archiveSha256 : String) : WorkspaceBackupReport where
  schemaVersion := backupSchemaVersion
  fileCount := entries.length
  totalBytes := totalBytes entries
  manifestSha256 := sha256Bytes manifest
  archiveSha256 := archiveSha256
  authorizationEffect := "none"

/-! ## Workspace roots and archives -/

/-- What a directory entry is that is no directory. -/
inductive Node where
  | file (data : List UInt8)
  | symlink
  | special

/-- The name of a directory entry. -/
structure IsFileName (c : String) : Prop extends IsComponent c where
  notUp : c ≠ ".."
  noNul : Char.ofNat 0 ∉ c.toList

/-- What lies below a workspace root but its directories, in the order of `sorted`. -/
structure WorkspaceRoot where
  nodes : List (Path × Node)
  sorted : nodes.Pairwise fun a b => a.1 < b.1
  below : ∀ a ∈ nodes, a.1 ≠ []
  named : ∀ a ∈ nodes, ∀ c ∈ a.1, IsFileName c
  leaves : ∀ a ∈ nodes, ∀ b ∈ nodes, a.1 <+: b.1 → a.1 = b.1

/-- One member of an archive: its name, its attributes, and its bytes or what reading them
raises. -/
structure ZipMember where
  filename : String
  externalAttr : Nat
  data : Py (List UInt8)

/-- An archive file: the digest of its bytes, and the members or what opening it raises. -/
structure ArchiveFile where
  digest : String
  members : Py (List ZipMember)

/-- `archive.read(name)`: the last member of the name. -/
def readMember (infos : List ZipMember) (name : String) : Py (List UInt8) :=
  match infos.reverse.find? fun info => info.filename = name with
  | some info => info.data
  | none => .error (keyError ("There is no item named " ++ name ++ " in the archive"))

section Functions

variable (repr : String → String) (isOne : String → Bool) (fileDigest : List ZipMember → String)

/-- Source: `workspace_recovery.py` `_safe_relative`. -/
def safeRelative (path : String) : Py Path := do
  let parts := posixParts path
  raiseIf (path = "" ∨ isAbsolute path ∨ ".." ∈ parts ∨ "." ∈ parts ∨ '\\' ∈ path.toList)
    (valueError ("unsafe backup path: " ++ repr path))
  return parts

/-! ## Creation -/

/-- The path of what lies at `parts` below `root`, in messages. -/
def absoluteText (root parts : Path) : String := "/" ++ posixStr (root ++ parts)

/-- One turn of the loop over the root.  Source: `workspace_recovery.py` `_source_entries`. -/
def addEntry (root : Path) (entries : List WorkspaceBackupEntry) (node : Path × Node) :
    Py (List WorkspaceBackupEntry) :=
  match node.2 with
  | .symlink =>
    .error (valueError ("workspace backup refuses symlink: " ++ absoluteText root node.1))
  | .special =>
    .error (valueError ("workspace backup refuses non-regular file: " ++ absoluteText root node.1))
  | .file data => do
    let relative := posixStr node.1
    let _ ← safeRelative repr relative
    raiseIf (relative = manifestName)
      (valueError "workspace contains reserved backup manifest path")
    raiseIf (maxBackupFiles < entries.length + 1)
      (valueError "workspace backup file limit exceeded")
    raiseIf (maxBackupBytes < totalBytes entries + data.length)
      (valueError "workspace backup size limit exceeded")
    return entries ++ [⟨relative, data.length, sha256Bytes data⟩]

/-- Source: `workspace_recovery.py` `_source_entries`, behind its first check. -/
def sourceEntries (root : Path) (tree : WorkspaceRoot) : Py (List WorkspaceBackupEntry) :=
  tree.nodes.foldlM (addEntry repr root) []

/-- The members of a manifest. -/
def manifestMembers (entries : List WorkspaceBackupEntry) : List (String × Json) :=
  [("schema_version", .int backupSchemaVersion), ("authorization_effect", .str "none"),
    ("files", .arr (entries.map WorkspaceBackupEntry.toDict))]

/-- Source: `workspace_recovery.py` `_manifest_bytes`. -/
def manifestBytes (entries : List WorkspaceBackupEntry) : List UInt8 :=
  encode (Json.dumps (.obj (manifestMembers entries)) ++ "\n").toList

/-- The attributes of a regular file that its owner reads and writes. -/
def writtenAttr : Nat := 0o600 <<< 16

/-- `(root / Path(*parts)).read_bytes()`. -/
def readBytes (tree : WorkspaceRoot) (parts : Path) : Py (List UInt8) :=
  match tree.nodes.find? fun node => node.1 = parts with
  | some (_, .file data) => .ok data
  | _ => .error ⟨.osError, "No such file or directory: " ++ posixStr parts⟩

/-- The member an entry is written as. -/
def entryMember (tree : WorkspaceRoot) (entry : WorkspaceBackupEntry) : Py ZipMember := do
  let data ← readBytes tree (posixParts entry.path)
  return ⟨entry.path, writtenAttr, .ok data⟩

/-- The backup of what lies at `root` to the path `output`: `written` is the outcome of making the
file.  Source: `workspace_recovery.py` `create_workspace_backup`. -/
def createWorkspaceBackup (root : Path) (source : Option WorkspaceRoot) (output : Path)
    (outputExists : Bool) (written : Py Unit) : Py (ArchiveFile × WorkspaceBackupReport) := do
  raiseIf (root <+: output)
    (valueError "backup destination must be outside the workspace root")
  raiseIf (outputExists = true) (valueError "backup destination already exists")
  let tree ← getOrRaise source (valueError "workspace root must be an existing directory")
  let entries ← sourceEntries repr root tree
  let manifest := manifestBytes entries
  let members ← entries.mapM (entryMember tree)
  let infos := ⟨manifestName, writtenAttr, .ok manifest⟩ :: members
  written
  let digest := fileDigest infos
  return (⟨digest, .ok infos⟩, reportOf manifest entries digest)

/-! ## Verification -/

/-- The check of one member's name and mode. -/
def checkInfo (info : ZipMember) : Py Unit := do
  let safe ← safeRelative repr info.filename
  raiseIf ((info.externalAttr >>> 16) &&& 0o170000 = 0o120000)
    (valueError ("workspace backup contains symlink: " ++ posixStr safe))

/-- The bytes of the manifest and the document they are the text of. -/
def manifestDocument (infos : List ZipMember) : Py (List UInt8 × Json) := do
  let bytes ← readMember infos manifestName
  let chars ← getOrRaise (decodeUtf8 bytes) (valueError "workspace backup manifest is invalid")
  let payload ← getOrRaise (Json.loads (String.ofList chars))
    (valueError "workspace backup manifest is invalid")
  return (bytes, payload)

/-- The value is the schema version, as `==` has it. -/
def isSchemaVersion : Json → Bool
  | .int n => n = backupSchemaVersion
  | .bool b => b
  | .float literal => isOne literal
  | _ => false

/-- The value is the text `none`. -/
def isNoneText : Json → Bool
  | .str s => s = "none"
  | _ => false

/-- The argument of `PurePosixPath`. -/
def asPath : Json → Py String
  | .str s => .ok s
  | _ => .error (typeError "argument should be a str or an os.PathLike object")

/-- The size of a manifest entry: a truth value is an integer too. -/
def asSize : Json → Py Nat
  | .int n => do
      raiseIf (n < 0) (valueError "workspace backup manifest file size is invalid")
      return n.toNat
  | .bool b => .ok b.toNat
  | _ => .error (valueError "workspace backup manifest file size is invalid")

/-- The digest of a manifest entry. -/
def asDigest : Json → Py String
  | .str s => do
      require (Sha256.isSha256Hex s) (valueError "workspace backup manifest digest is invalid")
      return s
  | _ => .error (valueError "workspace backup manifest digest is invalid")

/-- One turn of the loop over the items of a manifest. -/
def readEntry (entries : List WorkspaceBackupEntry) (item : Json) :
    Py (List WorkspaceBackupEntry) := do
  require (keys? item = some {"path", "size", "sha256"})
    (valueError "workspace backup manifest entry is invalid")
  let argument ← getItem item "path" >>= asPath
  let parts ← safeRelative repr argument
  let path := posixStr parts
  raiseIf (path = manifestName ∨ path ∈ entries.map (·.path))
    (valueError "workspace backup manifest contains duplicate/reserved path")
  let size ← getItem item "size" >>= asSize
  let digest ← getItem item "sha256" >>= asDigest
  raiseIf (maxBackupFiles < entries.length + 1 ∨ maxBackupBytes < totalBytes entries + size)
    (valueError "workspace backup limits exceeded")
  return entries ++ [⟨path, size, digest⟩]

/-- The check of one entry against the bytes of its member. -/
def checkEntry (infos : List ZipMember) (entry : WorkspaceBackupEntry) : Py Unit := do
  let data ← readMember infos entry.path
  raiseIf (data.length ≠ entry.size)
    (valueError ("workspace backup size mismatch: " ++ entry.path))
  raiseIf (sha256Bytes data ≠ entry.sha256)
    (valueError ("workspace backup digest mismatch: " ++ entry.path))

/-- The checks of the manifest's own members; gives the items of the files. -/
def manifestItems (payload : Json) : Py (List Json) := do
  require (keys? payload = some {"schema_version", "authorization_effect", "files"})
    (valueError "workspace backup manifest schema is not supported")
  let version ← getItem payload "schema_version"
  require (isSchemaVersion isOne version = true)
    (valueError "workspace backup schema version is not supported")
  let effect ← getItem payload "authorization_effect"
  require (isNoneText effect = true) (valueError "workspace backup cannot grant authorization")
  asArr (payload.get? "files") "workspace backup manifest files are invalid"

/-- Source: `workspace_recovery.py` `_load_verified_manifest`. -/
def loadVerifiedManifest (archive : Option ArchiveFile) :
    Py (List UInt8 × List WorkspaceBackupEntry) := do
  let file ← getOrRaise archive (valueError "workspace backup archive not found")
  let infos ← file.members
  raiseIf (maxBackupFiles + 1 < infos.length) (valueError "workspace backup file limit exceeded")
  let names := infos.map (·.filename)
  require names.Nodup (valueError "workspace backup contains duplicate paths")
  require (manifestName ∈ names) (valueError "workspace backup manifest is missing")
  infos.forM (checkInfo repr)
  let (bytes, payload) ← manifestDocument infos
  let items ← manifestItems isOne payload
  let entries ← items.foldlM (readEntry repr) []
  require (names.toFinset.erase manifestName = (entries.map (·.path)).toFinset)
    (valueError "workspace backup archive and manifest paths differ")
  entries.forM (checkEntry infos)
  return (bytes, entries)

/-- Source: `workspace_recovery.py` `verify_workspace_backup`. -/
def verifyWorkspaceBackup (archive : Option ArchiveFile) : Py WorkspaceBackupReport := do
  let (manifest, entries) ← loadVerifiedManifest repr isOne archive
  let file ← getOrRaise archive (valueError "workspace backup archive not found")
  return reportOf manifest entries file.digest

/-! ## Restoration -/

/-- The regular files of a tree. -/
abbrev Tree := Dict Path (List UInt8)

/-- What happens while a tree is written: the outcomes of making the temporary directory, of
writing each file, and of moving the directory to the destination. -/
structure Outcomes where
  prepare : Py Unit
  write : Path → Py Unit
  replace : Py Unit

/-- Every operation succeeds. -/
def Outcomes.smooth : Outcomes := ⟨.ok (), fun _ => .ok (), .ok ()⟩

/-- `target.parent.mkdir(parents=True, exist_ok=True)` and `target.write_bytes(data)`: a file
stands in the way of a directory, and a directory in the way of a file. -/
def writeFile (outcomes : Outcomes) (tree : Tree) (parts : Path) (data : List UInt8) :
    Py Tree := do
  raiseIf (∃ p ∈ tree.keys, p <+: parts ∧ p ≠ parts)
    ⟨.osError, "Not a directory: " ++ posixStr parts⟩
  raiseIf (parts = [] ∨ ∃ p ∈ tree.keys, parts <+: p ∧ p ≠ parts)
    ⟨.osError, "Is a directory: " ++ posixStr parts⟩
  outcomes.write parts
  return tree.insert parts data

/-- One turn of the loop over the entries. -/
def writeEntry (infos : List ZipMember) (outcomes : Outcomes) (tree : Tree)
    (entry : WorkspaceBackupEntry) : Py Tree := do
  let data ← readMember infos entry.path
  let written ← writeFile outcomes tree (posixParts entry.path) data
  raiseIf (sha256Bytes data ≠ entry.sha256)
    (valueError ("restored file digest mismatch: " ++ entry.path))
  return written

/-- The report, and the temporary tree that takes the destination's place; the tree is removed when
an exception is raised. -/
def temporaryTree (archive : Option ArchiveFile) (outcomes : Outcomes) :
    Py (WorkspaceBackupReport × Tree) := do
  let report ← verifyWorkspaceBackup repr isOne archive
  let (_, entries) ← loadVerifiedManifest repr isOne archive
  outcomes.prepare
  let file ← getOrRaise archive (valueError "workspace backup archive not found")
  let infos ← file.members
  let tree ← entries.foldlM (writeEntry infos outcomes) ∅
  outcomes.replace
  return (report, tree)

/-- The state is the tree at the destination, if there is one.
Source: `workspace_recovery.py` `restore_workspace_backup`. -/
def restoreWorkspaceBackup (archive : Option ArchiveFile) (outcomes : Outcomes) :
    Proc Exn (Option Tree) WorkspaceBackupReport := do
  let destination ← Proc.get
  Proc.ofExcept (raiseIf (destination.isSome = true)
    (valueError "restore destination must not already exist"))
  let (report, tree) ← Proc.ofExcept (temporaryTree repr isOne archive outcomes)
  Proc.modify fun _ => some tree
  return report

/-! ## Names -/

/-- The name passes `_safe_relative`. -/
structure Safe (path : String) : Prop where
  nonempty : path ≠ ""
  relative : ¬ isAbsolute path
  notUp : ".." ∉ posixParts path
  noBackslash : '\\' ∉ path.toList

theorem safeRelative_eq_ok {path : String} {parts : Path} :
    safeRelative repr path = .ok parts ↔ Safe path ∧ posixParts path = parts := by
  have hdot : "." ∉ posixParts path := fun h => (mem_posixParts h).notDot rfl
  simp only [safeRelative, raiseIf_bind_eq_ok, pure_eq_ok, Except.ok.injEq, not_or]
  constructor
  · rintro ⟨⟨hne, hrel, hup, -, hback⟩, hparts⟩
    exact ⟨⟨hne, hrel, hup, hback⟩, hparts⟩
  · rintro ⟨⟨hne, hrel, hup, hback⟩, hparts⟩
    exact ⟨⟨hne, hrel, hup, hdot, hback⟩, hparts⟩

theorem readMember_of_mem {infos : List ZipMember} (h : (infos.map (·.filename)).Nodup)
    {info : ZipMember} (hmem : info ∈ infos) : readMember infos info.filename = info.data := by
  have hrev : (infos.reverse.map (·.filename)).Nodup := by
    rw [List.map_reverse, List.nodup_reverse]
    exact h
  have hfind : infos.reverse.find? (fun i => decide (i.filename = info.filename)) = some info :=
    (Keyed.find?_eq_some_iff hrev).mpr ⟨List.mem_reverse.mpr hmem, rfl⟩
  rw [readMember, hfind]

/-! ## What a root is written as -/

/-- The entry of a file. -/
def entryOf (file : Path × List UInt8) : WorkspaceBackupEntry :=
  ⟨posixStr file.1, file.2.length, sha256Bytes file.2⟩

/-- The member of a file. -/
def memberOf (file : Path × List UInt8) : ZipMember :=
  ⟨posixStr file.1, writtenAttr, .ok file.2⟩

/-- Nodes that are files, their entries, and what was checked of them. -/
structure Admits (nodes : List (Path × Node)) (entries : List WorkspaceBackupEntry)
    (files : List (Path × List UInt8)) : Prop where
  nodes_eq : nodes = files.map fun file => (file.1, .file file.2)
  entries_eq : entries = files.map entryOf
  safe : ∀ file ∈ files, Safe (posixStr file.1) ∧ posixStr file.1 ≠ manifestName
  count : entries.length ≤ maxBackupFiles
  bytes : totalBytes entries ≤ maxBackupBytes

theorem totalBytes_concat (entries : List WorkspaceBackupEntry) (entry : WorkspaceBackupEntry) :
    totalBytes (entries ++ [entry]) = totalBytes entries + entry.size := by
  simp [totalBytes]

/-- **One turn of the loop over the root admits one more file.** -/
theorem addEntry_admits {root : Path} {nodes : List (Path × Node)} {node : Path × Node}
    {entries entries' : List WorkspaceBackupEntry} (h : ∃ files, Admits nodes entries files)
    (hturn : addEntry repr root entries node = .ok entries') :
    ∃ files, Admits (nodes ++ [node]) entries' files := by
  obtain ⟨files, h⟩ := h
  obtain ⟨parts, node⟩ := node
  cases node with
  | symlink => exact nomatch hturn
  | special => exact nomatch hturn
  | file data =>
    dsimp only [addEntry] at hturn
    rw [bind_eq_ok] at hturn
    obtain ⟨_, hsafe, hturn⟩ := hturn
    simp only [raiseIf_bind_eq_ok, pure_eq_ok, Except.ok.injEq] at hturn
    obtain ⟨hname, hcount, hbytes, rfl⟩ := hturn
    refine ⟨files ++ [(parts, data)], ?_, ?_, ?_, ?_, ?_⟩
    · rw [h.nodes_eq, List.map_append]
      rfl
    · rw [h.entries_eq, List.map_append]
      rfl
    · intro file hfile
      rcases List.mem_append.mp hfile with hfile | hfile
      · exact h.safe file hfile
      · rw [List.mem_singleton.mp hfile]
        exact ⟨((safeRelative_eq_ok repr).mp hsafe).1, hname⟩
    · rw [List.length_append]
      exact Nat.le_of_not_lt hcount
    · rw [totalBytes_concat]
      exact Nat.le_of_not_lt hbytes

/-- **The entries of a root are those of its files.** -/
theorem sourceEntries_admits {root : Path} {tree : WorkspaceRoot}
    {entries : List WorkspaceBackupEntry} (h : sourceEntries repr root tree = .ok entries) :
    ∃ files, Admits tree.nodes entries files := by
  have hempty : ∃ files, Admits [] [] files := by
    refine ⟨[], rfl, rfl, ?_, ?_, ?_⟩
    · intro file hfile
      exact absurd hfile List.not_mem_nil
    · exact Nat.zero_le _
    · exact Nat.zero_le _
  exact foldlM_induct (P := fun nodes entries => ∃ files, Admits nodes entries files)
    (fun _ _ _ _ h hturn => addEntry_admits repr h hturn) tree.nodes [] [] entries hempty h

section Admitted

variable {tree : WorkspaceRoot} {entries : List WorkspaceBackupEntry}
  {files : List (Path × List UInt8)} (h : Admits tree.nodes entries files)
include h

theorem Admits.mem_nodes {file : Path × List UInt8} (hfile : file ∈ files) :
    (file.1, .file file.2) ∈ tree.nodes := by
  rw [h.nodes_eq]
  exact List.mem_map_of_mem hfile

/-- A file's components are read back from its name. -/
theorem Admits.parts_eq {file : Path × List UInt8} (hfile : file ∈ files) :
    posixParts (posixStr file.1) = file.1 :=
  posixParts_posixStr fun c hc => (tree.named _ (h.mem_nodes hfile) c hc).toIsComponent

theorem Admits.paths_nodup : (files.map (·.1)).Nodup := by
  have hsorted := tree.sorted
  rw [h.nodes_eq, List.pairwise_map] at hsorted
  rw [List.nodup_iff_pairwise_ne, List.pairwise_map]
  exact hsorted.imp fun hlt => ne_of_lt hlt

/-- **The names of a root's files differ.** -/
theorem Admits.names_nodup : (files.map fun file => posixStr file.1).Nodup := by
  have hnodup := h.paths_nodup
  rw [List.nodup_iff_pairwise_ne, List.pairwise_map] at hnodup ⊢
  apply hnodup.imp_of_mem
  intro file file' hfile hfile' hne heq
  have hparts := congrArg posixParts heq
  rw [h.parts_eq hfile, h.parts_eq hfile'] at hparts
  exact hne hparts

/-- No file lies below another. -/
theorem Admits.leaves {file file' : Path × List UInt8} (hfile : file ∈ files)
    (hfile' : file' ∈ files) (hle : file.1 <+: file'.1) : file.1 = file'.1 :=
  tree.leaves _ (h.mem_nodes hfile) _ (h.mem_nodes hfile') hle

/-- The bytes of a file are read from the root. -/
theorem Admits.readBytes {file : Path × List UInt8} (hfile : file ∈ files) :
    readBytes tree file.1 = .ok file.2 := by
  have hnodup : (tree.nodes.map (·.1)).Nodup := by
    rw [h.nodes_eq, List.map_map]
    exact h.paths_nodup
  have hfind := (Keyed.find?_eq_some_iff hnodup).mpr ⟨h.mem_nodes hfile, rfl⟩
  rw [WorkspaceRecovery.readBytes, hfind]

/-- **The members of a backup are those of the files.** -/
theorem Admits.members : entries.mapM (entryMember tree) = .ok (files.map memberOf) := by
  rw [h.entries_eq, mapM_eq_ok, List.forall₂_map_left_iff, List.forall₂_map_right_iff,
    List.forall₂_same]
  intro file hfile
  dsimp only [entryMember, entryOf]
  rw [h.parts_eq hfile, h.readBytes hfile]
  rfl

end Admitted

/-! ## The manifest of a backup -/

/-- The document of an entry, as it is read from the manifest. -/
def itemOf (entry : WorkspaceBackupEntry) : Json := Json.normal entry.toDict

theorem hasExactly_itemOf (entry : WorkspaceBackupEntry) :
    HasExactly (itemOf entry) [("path", .str entry.path), ("size", .int entry.size),
      ("sha256", .str entry.sha256)] := by
  have hnodup : ([("path", .str entry.path), ("size", .int entry.size),
      ("sha256", .str entry.sha256)].map ((·.1) : String × Json → String)).Nodup := by simp
  exact hasExactly_normal hnodup

theorem asSize_natCast (n : Nat) : asSize (.int n) = .ok n := by
  have hnonneg : ¬ (n : Int) < 0 := Int.not_lt.mpr (Int.natCast_nonneg n)
  rw [asSize, raiseIf_of_not hnonneg]
  rfl

theorem asDigest_sha256Bytes (data : List UInt8) :
    asDigest (.str (sha256Bytes data)) = .ok (sha256Bytes data) := by
  have hhex : Sha256.isSha256Hex (sha256Bytes data) := by
    unfold sha256Bytes
    exact Sha256.isSha256Hex_hexdigest _
  rw [asDigest, require_of hhex]
  rfl

/-- **One item of a backup's manifest gives its entry back.** -/
theorem readEntry_itemOf {file : Path × List UInt8} {done : List WorkspaceBackupEntry}
    (hsafe : Safe (posixStr file.1)) (hname : posixStr file.1 ≠ manifestName)
    (hparts : posixParts (posixStr file.1) = file.1)
    (hnew : posixStr file.1 ∉ done.map (·.path)) (hcount : done.length + 1 ≤ maxBackupFiles)
    (hbytes : totalBytes done + file.2.length ≤ maxBackupBytes) :
    readEntry repr done (itemOf (entryOf file)) = .ok (done ++ [entryOf file]) := by
  have hitem := hasExactly_itemOf (entryOf file)
  have hkeys : keys? (itemOf (entryOf file)) = some {"path", "size", "sha256"} := by
    rw [hitem.keys]
    rfl
  obtain ⟨hpath, hsize, hdigest, -⟩ : _ ∧ _ ∧ _ ∧ True := by simpa using hitem.has
  have hrel := (safeRelative_eq_ok repr).mpr ⟨hsafe, hparts⟩
  have hfits : ¬ (maxBackupFiles < done.length + 1 ∨
      maxBackupBytes < totalBytes done + file.2.length) := by omega
  have hfresh : ¬ (posixStr file.1 = manifestName ∨ posixStr file.1 ∈ done.map (·.path)) :=
    not_or.mpr ⟨hname, hnew⟩
  have hread : (getItem (itemOf (entryOf file)) "path" >>= asPath) = .ok (posixStr file.1) := by
    rw [getItem_eq_ok.mpr hpath]
    rfl
  have hcheck : (getItem (itemOf (entryOf file)) "size" >>= asSize) = .ok file.2.length := by
    rw [getItem_eq_ok.mpr hsize]
    exact asSize_natCast file.2.length
  have hhex : (getItem (itemOf (entryOf file)) "sha256" >>= asDigest) =
      .ok (sha256Bytes file.2) := by
    rw [getItem_eq_ok.mpr hdigest]
    exact asDigest_sha256Bytes file.2
  rw [readEntry, require_of hkeys, ok_bind, hread, ok_bind, hrel, ok_bind]
  dsimp only
  rw [raiseIf_of_not hfresh, ok_bind, hcheck, ok_bind, hhex, ok_bind, raiseIf_of_not hfits]
  rfl

/-- **The items of a backup's manifest give its entries back.** -/
theorem readEntries_itemOf {tree : WorkspaceRoot} {entries : List WorkspaceBackupEntry}
    {files : List (Path × List UInt8)} (h : Admits tree.nodes entries files)
    {done todo : List (Path × List UInt8)} (hfiles : files = done ++ todo) :
    (todo.map fun file => itemOf (entryOf file)).foldlM (readEntry repr) (done.map entryOf) =
      .ok entries := by
  induction todo generalizing done with
  | nil =>
    rw [h.entries_eq, hfiles, List.append_nil]
    rfl
  | cons file todo ih =>
    have hmem : file ∈ files := by
      rw [hfiles]
      exact List.mem_append_right _ List.mem_cons_self
    obtain ⟨hsafe, hname⟩ := h.safe file hmem
    have hnew : posixStr file.1 ∉ (done.map entryOf).map (·.path) := by
      have hnodup := h.names_nodup
      rw [hfiles, List.map_append, List.nodup_append] at hnodup
      rw [List.map_map]
      intro hold
      exact hnodup.2.2 _ hold _ List.mem_cons_self rfl
    have hcount : (done.map entryOf).length + 1 ≤ maxBackupFiles := by
      have hle := h.count
      rw [h.entries_eq, hfiles] at hle
      simp only [List.length_map, List.length_append, List.length_cons] at hle ⊢
      omega
    have hbytes : totalBytes (done.map entryOf) + file.2.length ≤ maxBackupBytes := by
      have hle := h.bytes
      rw [h.entries_eq, hfiles] at hle
      simp only [totalBytes, List.map_append, List.map_cons, List.sum_append,
        List.sum_cons, entryOf] at hle ⊢
      omega
    rw [List.map_cons, List.foldlM_cons,
      readEntry_itemOf repr hsafe hname (h.parts_eq hmem) hnew hcount hbytes, ok_bind]
    have hfiles' : files = (done ++ [file]) ++ todo := by
      rw [hfiles, List.append_assoc]
      rfl
    have hrest := ih hfiles'
    rwa [List.map_append] at hrest

theorem manifestMembers_normal (entries : List WorkspaceBackupEntry) :
    HasExactly (Json.normal (.obj (manifestMembers entries)))
      [("schema_version", .int backupSchemaVersion), ("authorization_effect", .str "none"),
        ("files", .arr (entries.map itemOf))] := by
  have hfiles : Json.normal (.arr (entries.map WorkspaceBackupEntry.toDict)) =
      .arr (entries.map itemOf) := by
    rw [Json.normal, Json.elemsNormal_eq_map, List.map_map]
    rfl
  have hnodup : ((manifestMembers entries).map (·.1)).Nodup := by simp [manifestMembers]
  have hexact := hasExactly_normal hnodup
  simp only [normalMembers, manifestMembers, List.map_cons, List.map_nil, hfiles] at hexact
  exact hexact

theorem valid_manifestMembers (entries : List WorkspaceBackupEntry) :
    Json.valid (.obj (manifestMembers entries)) := by
  have hitems : Json.valid (.arr (entries.map WorkspaceBackupEntry.toDict)) := by
    apply valid_arr_map
    intro entry _
    simp [WorkspaceBackupEntry.toDict, Json.valid, Json.membersValid]
  refine ⟨by simp [manifestMembers], trivial, trivial, hitems, trivial⟩

/-- **The document of a backup's manifest.** -/
theorem manifestDocument_backup {infos : List ZipMember} {entries : List WorkspaceBackupEntry}
    (hread : readMember infos manifestName = .ok (manifestBytes entries)) :
    manifestDocument infos =
      .ok (manifestBytes entries, Json.normal (.obj (manifestMembers entries))) := by
  have hdecode : decodeUtf8 (manifestBytes entries) =
      some (Json.dumps (.obj (manifestMembers entries)) ++ "\n").toList :=
    Json.decodeUtf8_encode _
  have hloads := Json.loads_dumps_line (valid_manifestMembers entries)
  rw [manifestDocument, hread, ok_bind, hdecode]
  rw [getOrRaise_some, ok_bind, String.ofList_toList, hloads]
  rfl

theorem manifestItems_backup (entries : List WorkspaceBackupEntry) :
    manifestItems isOne (Json.normal (.obj (manifestMembers entries))) =
      .ok (entries.map itemOf) := by
  have hexact := manifestMembers_normal entries
  have hkeys : keys? (Json.normal (.obj (manifestMembers entries))) =
      some {"schema_version", "authorization_effect", "files"} := by
    rw [hexact.keys]
    rfl
  obtain ⟨hversion, heffect, hfiles, -⟩ : _ ∧ _ ∧ _ ∧ True := by simpa using hexact.has
  have hone : isSchemaVersion isOne (.int backupSchemaVersion) = true := by
    simp [isSchemaVersion]
  have hnone : isNoneText (.str "none") = true := by simp [isNoneText]
  rw [manifestItems, require_of hkeys, ok_bind, getItem_eq_ok.mpr hversion, ok_bind,
    require_of hone, ok_bind, getItem_eq_ok.mpr heffect, ok_bind, require_of hnone, ok_bind, hfiles]
  rfl

/-- The members of the backup of these files. -/
def backupMembers (entries : List WorkspaceBackupEntry) (files : List (Path × List UInt8)) :
    List ZipMember :=
  ⟨manifestName, writtenAttr, .ok (manifestBytes entries)⟩ :: files.map memberOf

theorem safe_manifestName : Safe manifestName := by
  constructor <;> decide

theorem checkInfo_written {name : String} {data : Py (List UInt8)} (h : Safe name) :
    checkInfo repr ⟨name, writtenAttr, data⟩ = .ok () := by
  have hmode : ¬ (writtenAttr >>> 16) &&& 0o170000 = 0o120000 := by decide
  rw [checkInfo, (safeRelative_eq_ok repr).mpr ⟨h, rfl⟩, ok_bind]
  exact raiseIf_of_not hmode

section Backup

variable {tree : WorkspaceRoot} {entries : List WorkspaceBackupEntry}
  {files : List (Path × List UInt8)} (h : Admits tree.nodes entries files)
include h

theorem Admits.backup_nodup : ((backupMembers entries files).map (·.filename)).Nodup := by
  rw [backupMembers, List.map_cons, List.nodup_cons, List.map_map]
  refine ⟨?_, h.names_nodup⟩
  intro hmem
  obtain ⟨file, hfile, hname⟩ := List.mem_map.mp hmem
  exact (h.safe file hfile).2 hname

theorem Admits.read_manifest :
    readMember (backupMembers entries files) manifestName = .ok (manifestBytes entries) :=
  readMember_of_mem h.backup_nodup List.mem_cons_self

theorem Admits.read_file {file : Path × List UInt8} (hfile : file ∈ files) :
    readMember (backupMembers entries files) (posixStr file.1) = .ok file.2 :=
  readMember_of_mem h.backup_nodup (List.mem_cons_of_mem _ (List.mem_map_of_mem hfile))

/-- **A backup verifies, with the entries it was made from.** -/
theorem Admits.verified (digest : String) :
    loadVerifiedManifest repr isOne (some ⟨digest, .ok (backupMembers entries files)⟩) =
      .ok (manifestBytes entries, entries) := by
  have hlength : ¬ maxBackupFiles + 1 < (backupMembers entries files).length := by
    have hcount := h.count
    rw [h.entries_eq] at hcount
    simp only [backupMembers, List.length_cons, List.length_map] at hcount ⊢
    omega
  have hmanifest : manifestName ∈ (backupMembers entries files).map (·.filename) :=
    List.mem_cons_self
  have hinfos : (backupMembers entries files).forM (checkInfo repr) = .ok () := by
    rw [forM_eq_ok]
    intro info hinfo
    rcases List.mem_cons.mp hinfo with rfl | hinfo
    · exact checkInfo_written repr safe_manifestName
    · obtain ⟨file, hfile, rfl⟩ := List.mem_map.mp hinfo
      exact checkInfo_written repr (h.safe file hfile).1
  have hitems : (entries.map itemOf).foldlM (readEntry repr) [] = .ok entries := by
    have hread := readEntries_itemOf repr h (List.nil_append files).symm
    rw [h.entries_eq, List.map_map]
    rw [h.entries_eq] at hread
    exact hread
  have hnames : ((backupMembers entries files).map (·.filename)).toFinset.erase manifestName =
      (entries.map (·.path)).toFinset := by
    have hnodup := h.backup_nodup
    rw [backupMembers, List.map_cons, List.nodup_cons] at hnodup
    rw [backupMembers, List.map_cons, List.toFinset_cons, Finset.erase_insert
      (fun hmem => hnodup.1 (List.mem_toFinset.mp hmem)), h.entries_eq, List.map_map, List.map_map]
    rfl
  have hentries : entries.forM (checkEntry (backupMembers entries files)) = .ok () := by
    rw [forM_eq_ok, h.entries_eq]
    intro entry hentry
    obtain ⟨file, hfile, rfl⟩ := List.mem_map.mp hentry
    have hread := h.read_file hfile
    rw [h.entries_eq] at hread
    rw [checkEntry]
    dsimp only [entryOf]
    rw [hread, ok_bind]
    simp [raiseIf]
  rw [loadVerifiedManifest, getOrRaise_some, ok_bind]
  dsimp only
  rw [ok_bind, raiseIf_of_not hlength, ok_bind, require_of h.backup_nodup, ok_bind,
    require_of hmanifest, ok_bind, hinfos, ok_bind, manifestDocument_backup h.read_manifest,
    ok_bind]
  dsimp only
  rw [manifestItems_backup, ok_bind, hitems, ok_bind, require_of hnames, ok_bind, hentries]
  rfl

end Backup

end Functions

end NightRecon.RedEngine.WorkspaceRecovery
