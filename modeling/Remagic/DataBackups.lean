import Mathlib.Logic.Function.Basic
import Remagic.Bundles

/-!
# Backups of application data

Before an application's data schema changes, what stands at each of its declared paths
is copied, with a record of every entry's kind, content, permission bits and owner. A
restore clones the copy beside the path, applies the recorded metadata, compares the
contents and puts the clone in the path's place. What the kernel decides about a link
is a parameter.
-/

namespace Remagic.DataSchema
open Remagic.Package (Path Path.display textLe)

structure Owner where
  uid : Nat
  gid : Nat
  deriving DecidableEq

/-- A file system object without its metadata; a directory's children are in the order of their names. -/
inductive Node where
  | file (bytes : List UInt8)
  | symlink (target : String)
  | special
  | directory (children : List (String × Node))

/-- What a path above the sources leads to. -/
inductive Place where
  | missing
  | directory
  | other
  deriving DecidableEq

structure Disk where
  node : Path → Option Node
  above : Path → Place
  mode : Path → BitVec 12
  owner : Path → Owner

inductive EntryKind where
  | directory
  | file
  | symlink
  deriving DecidableEq

structure ContentRecord where
  relative : Path
  kind : EntryKind
  size : Nat
  sha256 : Option String
  linkTarget : Option String
  deriving DecidableEq

structure EntryRecord where
  relative : Path
  kind : EntryKind
  mode : BitVec 12
  owner : Owner
  size : Nat
  sha256 : Option String
  linkTarget : Option String
  deriving DecidableEq

structure SourceRecord where
  path : Path
  existed : Bool
  entries : List EntryRecord

inductive DataSchemaError where
  | io (operation : String) (path : Path)
  | unsupportedBackupObject (path : Path)
  | invalidBackup (text : String)
  deriving DecidableEq

/-- The directory that a path leads to through a link, if it leads to one, is no file
    and no link itself. -/
structure Host where
  process : Owner
  pid : Nat
  digest : List UInt8 → String
  leads : Disk → Path → String → Option Path
  leads_directory : ∀ {disk link target directory}, leads disk link target = some directory →
    ∀ node, disk.node directory = some node → ∃ children, node = .directory children

/-! ## Paths above a source -/

def ancestors (path : Path) : List Path := (List.range path.length).map fun count => path.take count

def parentOf (path : Path) : Option Path := if path = [] then none else some path.dropLast

def rejectSymlinkAncestors (disk : Disk) (path : Path) : Except DataSchemaError Unit :=
  if (ancestors path).any fun ancestor => disk.above ancestor = .other then
    throw (.invalidBackup ("backup source traverses a symbolic link: " ++ Path.display path))
  else pure ()

def syncDirectory (disk : Disk) (path : Path) : Except DataSchemaError Unit :=
  if disk.above path = .missing then throw (.io "sync directory" path) else pure ()

/-! ## The copy and its records -/

section Copy
variable (host : Host) (disk : Disk) (source : Path)

def entryRecord (relative : Path) (kind : EntryKind) (size : Nat) (sha256 linkTarget : Option String) : EntryRecord :=
  ⟨relative, kind, disk.mode (source ++ relative), disk.owner (source ++ relative), size, sha256, linkTarget⟩

mutual
def copyEntry (relative : Path) : Node → Except DataSchemaError (Node × List EntryRecord)
  | .symlink target => pure (.symlink target, [entryRecord disk source relative .symlink 0 none (some target)])
  | .file bytes =>
    pure (.file bytes, [entryRecord disk source relative .file bytes.length (some (host.digest bytes)) none])
  | .directory children => do
    let (copies, entries) ← copyChildren relative children
    pure (.directory copies, entryRecord disk source relative .directory 0 none none :: entries)
  | .special => throw (.unsupportedBackupObject (source ++ relative))

def copyChildren (relative : Path) :
    List (String × Node) → Except DataSchemaError (List (String × Node) × List EntryRecord)
  | [] => pure ([], [])
  | (name, child) :: rest => do
    let (copy, entries) ← copyEntry (relative ++ [name]) child
    let (copies, others) ← copyChildren relative rest
    pure ((name, copy) :: copies, entries ++ others)
end

end Copy

/-- The order of two relative paths as they are recorded. -/
def relativeLe (left right : Path) : Bool :=
  textLe (String.intercalate "/" left).toList (String.intercalate "/" right).toList

def captureSource (host : Host) (disk : Disk) (source : Path) :
    Except DataSchemaError (SourceRecord × Option Node) := do
  rejectSymlinkAncestors disk source
  match disk.node source with
  | none => pure (⟨source, false, []⟩, none)
  | some node =>
    let (copy, entries) ← copyEntry host disk source [] node
    pure (⟨source, true, entries.mergeSort fun left right => relativeLe left.relative right.relative⟩, some copy)

/-! ## The contents of a copy -/

section Inspect
variable (host : Host) (root : Path)

mutual
def inspectEntry (relative : Path) : Node → Except DataSchemaError (List ContentRecord)
  | .symlink target => pure [⟨relative, .symlink, 0, none, some target⟩]
  | .file bytes => pure [⟨relative, .file, bytes.length, some (host.digest bytes), none⟩]
  | .directory children => do
    let records ← inspectChildren relative children
    pure (⟨relative, .directory, 0, none, none⟩ :: records)
  | .special => throw (.unsupportedBackupObject (root ++ relative))

def inspectChildren (relative : Path) : List (String × Node) → Except DataSchemaError (List ContentRecord)
  | [] => pure []
  | (name, child) :: rest => do
    let records ← inspectEntry (relative ++ [name]) child
    let others ← inspectChildren relative rest
    pure (records ++ others)
end

end Inspect

def inspectTree (host : Host) (root : Path) (node : Node) : Except DataSchemaError (List ContentRecord) := do
  let records ← inspectEntry host root [] node
  pure (records.mergeSort fun left right => relativeLe left.relative right.relative)

def EntryRecord.content (entry : EntryRecord) : ContentRecord :=
  ⟨entry.relative, entry.kind, entry.size, entry.sha256, entry.linkTarget⟩

def contentRecords (entries : List EntryRecord) : List ContentRecord := entries.map EntryRecord.content

/-- A snapshot: the record of each source, and its copy. -/
abbrev Snapshot := List (SourceRecord × Option Node)

def verifySource (host : Host) : SourceRecord × Option Node → Except DataSchemaError Unit
  | (source, backup) =>
    if !source.existed then
      if backup.isSome then
        throw (.invalidBackup ("absent source unexpectedly has backup data: " ++ Path.display source.path))
      else pure ()
    else
      match backup with
      | none => throw (.io "inspect backed-up object" source.path)
      | some node => do
        let actual ← inspectTree host source.path node
        if actual ≠ contentRecords source.entries then
          throw (.invalidBackup ("backup content verification failed: " ++ Path.display source.path))

def Snapshot.verify (host : Host) (taken : Snapshot) : Except DataSchemaError Unit := taken.forM (verifySource host)

def snapshot (host : Host) (disk : Disk) (sources : List Path) : Except DataSchemaError Snapshot := do
  let captured ← sources.mapM (captureSource host disk)
  Snapshot.verify host captured
  pure captured

/-! ## The clone beside a source, and its metadata -/

/-- A clone that is not yet in its source's place. -/
structure Staged where
  node : Node
  mode : Path → BitVec 12
  owner : Path → Owner

section Clone
variable (source : Path)

mutual
def cloneBackupEntry : Node → Except DataSchemaError Node
  | .symlink target => pure (.symlink target)
  | .file bytes => pure (.file bytes)
  | .directory children => do
    let clones ← cloneChildren children
    pure (.directory clones)
  | .special => throw (.unsupportedBackupObject source)

def cloneChildren : List (String × Node) → Except DataSchemaError (List (String × Node))
  | [] => pure []
  | (name, child) :: rest => do
    let clone ← cloneBackupEntry child
    let clones ← cloneChildren rest
    pure ((name, clone) :: clones)
end

end Clone

mutual
/-- The entries of a tree, each with its kind. -/
def Node.walk (relative : Path) : Node → List (Path × EntryKind)
  | .symlink _ => [(relative, .symlink)]
  | .file _ => [(relative, .file)]
  | .special => []
  | .directory children => (relative, .directory) :: walkChildren relative children

def walkChildren (relative : Path) : List (String × Node) → List (Path × EntryKind)
  | [] => []
  | (name, child) :: rest => child.walk (relative ++ [name]) ++ walkChildren relative rest
end

/-- The bits that a clone is made with. -/
def privateMode : Option EntryKind → BitVec 12
  | some .file => 0o600#12
  | some .directory => 0o700#12
  | _ => 0o777#12

def Staged.clone (host : Host) (node : Node) : Staged :=
  ⟨node, fun relative => privateMode ((node.walk []).lookup relative), fun _ => host.process⟩

def stagingPath (host : Host) (parent : Path) (index : Nat) : Path :=
  parent ++ [".remagic-schema-restore-" ++ toString host.pid ++ "-" ++ toString index]

section Metadata
variable (host : Host) (staging : Path)

/-- `lchown` on the staged entry. The root's path is the staging path and a slash, which
    only a directory answers to: it fails on a file, and goes through a link. -/
def setOwner (state : Disk × Staged) (relative : Path) (owner : Owner) : Except DataSchemaError (Disk × Staged) :=
  let (disk, staged) := state
  let changed := { staged with owner := Function.update staged.owner relative owner }
  match relative, staged.node with
  | [], .directory _ => pure (disk, changed)
  | [], .symlink target =>
    match host.leads disk staging target with
    | some directory => pure ({ disk with owner := Function.update disk.owner directory owner }, staged)
    | none => throw (.io "restore data ownership" staging)
  | [], _ => throw (.io "restore data ownership" staging)
  | _ :: _, _ => pure (disk, changed)

def setPermissions (operation : String) (staged : Staged) (relative : Path) (mode : BitVec 12) :
    Except DataSchemaError Staged :=
  let changed := { staged with mode := Function.update staged.mode relative mode }
  match relative, staged.node with
  | [], .directory _ => pure changed
  | [], _ => throw (.io operation staging)
  | _ :: _, _ => pure changed

def applyEntry (state : Disk × Staged) (entry : EntryRecord) : Except DataSchemaError (Disk × Staged) := do
  let (disk, staged) ← setOwner host staging state entry.relative entry.owner
  if entry.kind = .file then
    let staged ← setPermissions staging "restore file permissions" staged entry.relative entry.mode
    pure (disk, staged)
  else pure (disk, staged)

/-- The recorded length of a relative path. -/
def relativeLength (relative : Path) : Nat := (String.intercalate "/" relative).utf8ByteSize

def applySourceMetadata (state : Disk × Staged) (entries : List EntryRecord) :
    Except DataSchemaError (Disk × Staged) := do
  let (disk, staged) ← entries.foldlM (applyEntry host staging) state
  let directories := (entries.filter fun entry => entry.kind = .directory).mergeSort fun left right =>
    decide (relativeLength right.relative ≤ relativeLength left.relative)
  let staged ← directories.foldlM (fun staged entry =>
    setPermissions staging "restore directory permissions" staged entry.relative entry.mode) staged
  pure (disk, staged)

end Metadata

/-! ## The restore -/

def removePath (disk : Disk) (path : Path) : Disk := { disk with node := Function.update disk.node path none }

/-- The staged clone renamed to its source's path. -/
def publish (disk : Disk) (path : Path) (staged : Staged) : Disk :=
  { disk with
    node := Function.update disk.node path (some staged.node)
    mode := fun place => if path <+: place then staged.mode (place.drop path.length) else disk.mode place
    owner := fun place => if path <+: place then staged.owner (place.drop path.length) else disk.owner place }

def restoreSource (host : Host) (disk : Disk) (source : SourceRecord) (backup : Option Node) (index : Nat) :
    Except DataSchemaError Disk := do
  rejectSymlinkAncestors disk source.path
  if !source.existed then
    let disk := removePath disk source.path
    match parentOf source.path with
    | none => pure disk
    | some parent => do
      syncDirectory disk parent
      pure disk
  else
    match parentOf source.path, backup with
    | none, _ => throw (.invalidBackup ("backup source has no parent: " ++ Path.display source.path))
    | some _, none => throw (.io "inspect backup for restore" source.path)
    | some parent, some copy => do
      let staging := stagingPath host parent index
      if disk.above parent = .missing then throw (.io "create restored object" staging)
      let clone ← cloneBackupEntry source.path copy
      let (disk, staged) ← applySourceMetadata host staging (disk, Staged.clone host clone) source.entries
      let actual ← inspectTree host staging staged.node
      if actual ≠ contentRecords source.entries then
        throw (.invalidBackup ("restored data failed verification: " ++ Path.display source.path))
      syncDirectory disk parent
      pure (publish disk source.path staged)

def restoreSources (host : Host) (disk : Disk) : Snapshot → Nat → Except DataSchemaError Disk
  | [], _ => pure disk
  | (source, backup) :: rest, index => do
    let disk ← restoreSource host disk source backup index
    restoreSources host disk rest (index + 1)

def restore (host : Host) (disk : Disk) (taken : Snapshot) : Except DataSchemaError Disk := do
  Snapshot.verify host taken
  restoreSources host disk taken 0

end Remagic.DataSchema
