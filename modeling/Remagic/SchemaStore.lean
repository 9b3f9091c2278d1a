import Remagic.AppIds
import Remagic.DataBackups
import Remagic.Tasks

/-!
# The transaction that changes a data schema

Before an application starts, the runner brings its data to the schema that the manifest
declares: it takes a snapshot, publishes a journal, runs the migrator and records the
version. The process may stop before any step, and any call may fail. Temporary files and
staging directories are steps that change nothing that is read back.
-/

namespace Remagic.DataSchema
open Remagic.Package (Path Path.display)
open Tasks

structure Schema where
  version : Nat
  migrator : Option Path := none
  backupPaths : List Path := []
  migrationTimeoutMs : Nat := 120000

/-- What the runner reads of a manifest. -/
structure AppManifest where
  schema : Nat
  id : AppId
  dataSchema : Option Schema := none

structure Directories where
  stateHome : Path
  runtimeDir : Path

/-- What the runner reads of a plan: the resolved environment, or what its own check
    says against it, and the generation of the launch. -/
structure ExecutionPlan where
  launchEnvironment : Option (Except String Directories)
  generation : Option Nat

/-- The source keeps the texts of the two errors of a failed restore. -/
inductive SchemaError where
  | requiresManifestV2
  | missingLaunchEnvironment
  | missingLaunchGeneration
  | invalidLaunchEnvironment (text : String)
  | downgrade (applied requested : Nat)
  | recursiveBackup (stateRoot sourcePath : Path)
  | concurrentTransaction
  | invalidState (text : String)
  | data (error : DataSchemaError)
  | invalidMigrator (path : Path)
  | startMigrator (path : Path)
  | migratorFailed (path : Path) (status : String)
  | migratorTimedOut (path : Path) (timeoutMs : Nat)
  | migrationRestore (migration restore : SchemaError)

def SchemaError.io (operation : String) (path : Path) : SchemaError := .data (.io operation path)

def SchemaError.invalidBackup (text : String) : SchemaError := .data (.invalidBackup text)

/-! ## What is on the disk -/

structure AppliedSchema where
  format : Nat
  appId : AppId
  version : Nat
  backup : String

structure PendingMigration where
  format : Nat
  appId : AppId
  fromVersion : Option Nat
  toVersion : Nat
  backup : String
  backupPaths : List Path

/-- `backup.json`, each source's record with what stands at its place under `sources`. -/
structure BackupManifest where
  format : Nat
  appId : AppId
  fromVersion : Option Nat
  toVersion : Nat
  taken : Snapshot

/-- What stands at a name among the backups: no real directory, or one with its manifest,
    if that can be read. -/
inductive BackupEntry where
  | other
  | directory (manifest : Option BackupManifest)

/-- An application's data, the schema's own files beside it, and the two phases that the
    runner publishes to the daemon. -/
structure Store where
  disk : Disk
  state : Option AppliedSchema := none
  pending : Option PendingMigration := none
  ready : Option (AppId × Nat) := none
  backups : String → Option BackupEntry := fun _ => none
  prepared : Option Nat := none
  complete : Option Nat := none

namespace Store
variable (store : Store)

/-- The version that is recorded. -/
def version : Option Nat := store.state.map AppliedSchema.version

/-- What stands at each path. -/
def node : Path → Option Node := store.disk.node

def setNode (path : Path) (node : Option Node) : Store :=
  { store with disk := { store.disk with node := Function.update store.disk.node path node } }

end Store

/-- How a migrator ends. -/
inductive MigratorExit where
  | success
  | failed (status : String)
  | timedOut
  | lost

/-- What the system answers to a step. `busy` is a lock that is taken, `left` what a
    removal that fails leaves, `written` what the migrator has written. -/
structure Answer where
  fails : Bool := false
  busy : Bool := false
  left : Option Node := none
  written : Path → Option Node := fun _ => none
  exit : MigratorExit := .success

/-- The data, but for what stands at the paths, where it is as it was kept. -/
def putBack (paths : List Path) (kept data : Path → Option Node) : Path → Option Node :=
  fun path => if path ∈ paths then kept path else data path

/-- What others promise of the data, as they have found and left it: where a version is
    recorded, and where a migrator has written, at whatever paths. -/
inductive Promise where
  | applied (fromVersion : Option Nat) (toVersion : Nat) (found left : Path → Option Node)
  | migrated (fromVersion : Option Nat) (backupPaths : List Path) (found left : Path → Option Node)

/-- What the runner does on the store. -/
abbrev Transaction (α : Type) := Job Store Answer Promise SchemaError α

/-! ## Steps -/

/-- A step that fails and changes nothing, or succeeds. -/
def edit (error : SchemaError) (run : Store → Store) : Transaction Unit :=
  ExceptT.mk (Task.step
    (fun answer store => if answer.fails then (.error error, store) else (.ok (), run store)) fun _ _ => none)

def probe (error : SchemaError) : Transaction Unit := edit error fun store => store

/-- What the store holds. -/
def look {α : Type} (view : Store → α) : Transaction α :=
  ExceptT.mk (Task.step (fun _ store => (.ok (view store), store)) fun _ _ => none)

/-- What a check answers. -/
def checked {α : Type} : Except DataSchemaError α → Transaction α
  | .ok value => pure value
  | .error error => throw (.data error)

/-- `atomic_write`: the temporary file, its bytes and its sync, the rename, and the sync of
    the directory, whose failure leaves the file in its place. -/
def atomicWrite (path : Path) (run : Store → Store) : Transaction Unit := do
  probe (.io "create temporary state" path)
  probe (.io "write temporary state" path)
  probe (.io "sync temporary state" path)
  edit (.io "publish state" path) run
  probe (.io "sync directory" path.dropLast)

/-- A file that is removed if it is there. -/
def removeFile (operation : String) (path : Path) (present : Store → Bool) (run : Store → Store) : Transaction Unit := do
  if ← look present then
    edit (.io operation path) run
    probe (.io "sync directory" path.dropLast)

def safeName (value : String) : Bool :=
  !value.isEmpty && value.utf8ByteSize ≤ 128 &&
    value.toList.all fun c => c.isLower || c.isUpper || c.isDigit || c == '-' || c == '_'

/-- No name of the path climbs; it is absolute. -/
def safeAbsolutePath (path : Path) : Bool := !path.contains ".."

/-! ## The schema's own files -/

structure SchemaStateStore where
  root : Path
  appId : AppId

namespace SchemaStateStore
variable (state : SchemaStateStore)

def stateFile : Path := state.root ++ ["state.json"]
def pendingFile : Path := state.root ++ ["pending.json"]
def readyFile : Path := state.root ++ ["schema-ready"]
def backupsRoot : Path := state.root ++ ["backups"]

def «open» (root : Path) (appId : AppId) : Transaction SchemaStateStore := do
  probe (.io "create managed schema directory" root)
  probe (.io "create managed schema directory" (root ++ ["backups"]))
  return ⟨root, appId⟩

/-- The lock is taken until the process ends. -/
def tryLock : Transaction Unit := do
  probe (.io "open managed schema file" (state.root ++ ["migration.lock"]))
  ExceptT.mk (Task.step (fun answer store =>
    (if answer.fails then .error (.io "lock schema transaction" (state.root ++ ["migration.lock"]))
      else if answer.busy then .error .concurrentTransaction else .ok (), store)) fun _ _ => none)

def consistent (applied : AppliedSchema) : Bool :=
  applied.format = 1 && applied.appId = state.appId && applied.version ≠ 0

def consistentPending (pending : PendingMigration) : Bool :=
  pending.format = 1 && pending.appId = state.appId && pending.toVersion ≠ 0 && pending.fromVersion ≠ some 0 &&
    pending.fromVersion.all (· < pending.toVersion) && safeName pending.backup &&
    pending.backupPaths.all safeAbsolutePath

def read : Transaction (Option AppliedSchema) := do
  probe (.io "read managed JSON" state.stateFile)
  match ← look Store.state with
  | none => return none
  | some applied =>
    if !(state.consistent applied && safeName applied.backup) then
      throw (.invalidState "state identity, version, or backup reference is invalid")
    return some applied

def readPending : Transaction (Option PendingMigration) := do
  probe (.io "read managed JSON" state.pendingFile)
  match ← look Store.pending with
  | none => return none
  | some pending =>
    if !state.consistentPending pending then
      throw (.invalidState "pending transaction identity, versions, paths, or backup reference are invalid")
    return some pending

def publishPending (pending : PendingMigration) : Transaction Unit := do
  if !state.consistentPending pending then
    throw (.invalidState "refusing to publish inconsistent pending transaction")
  atomicWrite state.pendingFile fun store => { store with pending := some pending }

def clearPending : Transaction Unit :=
  removeFile "clear pending schema transaction" state.pendingFile (·.pending.isSome) fun store =>
    { store with pending := none }

/-- The step that records the version leaves what the data was and is. -/
def publish (applied : AppliedSchema) (fromVersion : Option Nat) (found : Path → Option Node) : Transaction Unit := do
  if !state.consistent applied then throw (.invalidState "refusing to publish inconsistent state")
  probe (.io "create temporary state" state.stateFile)
  probe (.io "write temporary state" state.stateFile)
  probe (.io "sync temporary state" state.stateFile)
  ExceptT.mk (Task.step
    (fun answer store => if answer.fails then (.error (.io "publish state" state.stateFile), store)
      else (.ok (), { store with state := some applied }))
    fun answer store => if answer.fails then none else some (.applied fromVersion applied.version found store.node))
  probe (.io "sync directory" state.root)

def publishReady (version : Nat) : Transaction Unit := do
  if version = 0 then throw (.invalidState "refusing to publish a zero schema-ready version")
  atomicWrite state.readyFile fun store => { store with ready := some (state.appId, version) }

def clearReady : Transaction Unit :=
  removeFile "invalidate schema-ready fence" state.readyFile (·.ready.isSome) fun store => { store with ready := none }

end SchemaStateStore

/-! ## The restore, step by step -/

section Restore
variable (host : Host)

/-- `remove_path`: a removal that fails may have removed a part. -/
def removeTree (path : Path) : Transaction Unit :=
  ExceptT.mk (Task.step
    (fun answer store =>
      if (store.node path).isNone then
        (if answer.fails then .error (.io "inspect transaction path" path) else .ok (), store)
      else if answer.fails then (.error (.io "remove transaction path" path), store.setNode path answer.left)
      else (.ok (), { store with disk := removePath store.disk path })) fun _ _ => none)

/-- The clone gets its metadata; an owner may go through a link. -/
def stageMetadata (staging : Path) (clone : Node) (entries : List EntryRecord) : Transaction Staged :=
  ExceptT.mk (Task.step
    (fun answer store =>
      if answer.fails then (.error (.io "restore data ownership" staging), store)
      else match applySourceMetadata host staging (store.disk, Staged.clone host clone) entries with
        | .ok (disk, staged) => (.ok staged, { store with disk := disk })
        | .error error => (.error (.data error), store)) fun _ _ => none)

def syncParent (parent : Path) : Transaction Unit := do
  probe (.io "sync directory" parent)
  checked (← look fun store => syncDirectory store.disk parent)

/-- The rename of the staged clone. Where it fails, the data that was moved aside is moved
    back, if that succeeds. -/
def exchange (path : Path) (live : Option Node) (staged : Staged) : Transaction Unit := do
  match ← Job.outcome (edit (.io "publish restored application data" path) fun store =>
    { store with disk := DataSchema.publish store.disk path staged }) with
  | .ok () => pure ()
  | .error error =>
    if live.isSome then
      let _ ← Job.outcome (edit (.io "publish restored application data" path) (·.setNode path live))
    throw error

def restoreCopy (source : SourceRecord) (parent : Path) (copy : Node) (index : Nat) : Transaction Unit := do
  let staging := stagingPath host parent index
  probe (.io "remove transaction path" staging)
  probe (.io "remove transaction path" parent)
  if (← look fun store => store.disk.above parent) = .missing then throw (.io "create restored object" staging)
  probe (.io "create restored object" staging)
  let clone ← checked (cloneBackupEntry source.path copy)
  let staged ← stageMetadata host staging clone source.entries
  let actual ← checked (inspectTree host staging staged.node)
  if actual ≠ contentRecords source.entries then
    throw (.invalidBackup ("restored data failed verification: " ++ Path.display source.path))
  let live ← look fun store => store.node source.path
  if live.isSome then edit (.io "stage current application data" source.path) (·.setNode source.path none)
  exchange source.path live staged
  syncParent parent
  probe (.io "remove transaction path" parent)

/-- `restore_source`. -/
def restoreStep (source : SourceRecord) (backup : Option Node) (index : Nat) : Transaction Unit := do
  checked (← look fun store => rejectSymlinkAncestors store.disk source.path)
  if !source.existed then
    removeTree source.path
    match parentOf source.path with
    | none => pure ()
    | some parent => syncParent parent
  else
    match parentOf source.path, backup with
    | none, _ => throw (.invalidBackup ("backup source has no parent: " ++ Path.display source.path))
    | some _, none => throw (.io "inspect backup for restore" source.path)
    | some parent, some copy => restoreCopy host source parent copy index

def restoreSteps : Snapshot → Nat → Transaction Unit
  | [], _ => pure ()
  | (source, backup) :: rest, index => do
    restoreStep host source backup index
    restoreSteps rest (index + 1)

end Restore

/-! ## Backups -/

structure BackupStore where
  root : Path
  appId : AppId

/-- A backup that was loaded. -/
structure LoadedBackup where
  name : String
  manifest : BackupManifest

namespace LoadedBackup
variable (host : Host) (backups : BackupStore) (loaded : LoadedBackup)

/-- `Snapshot::load`. -/
def load (name : String) (found : Option BackupManifest) : Transaction LoadedBackup := do
  probe (.io "read backup manifest" (backups.root ++ [name, "backup.json"]))
  match found with
  | none => throw (.io "inspect backup manifest" (backups.root ++ [name, "backup.json"]))
  | some manifest =>
    if manifest.format ≠ 1 ∨ manifest.appId ≠ backups.appId then
      throw (.invalidBackup "backup format or application identity mismatch")
    return ⟨name, manifest⟩

def validateIdentity (fromVersion : Option Nat) (toVersion : Nat) (sources : List Path) : Transaction Unit := do
  if loaded.manifest.fromVersion ≠ fromVersion ∨ loaded.manifest.toVersion ≠ toVersion ∨
      (loaded.manifest.taken.map fun pair => pair.1.path) ≠ sources then
    throw (.invalidBackup "existing transaction does not match the requested migration")

def verify : Transaction Unit := do
  probe (.io "inspect backed-up object" (backups.root ++ [loaded.name]))
  checked (Snapshot.verify host loaded.manifest.taken)

def restore : Transaction Unit := do
  verify host backups loaded
  restoreSteps host loaded.manifest.taken 0

/-- The rename to a hidden name ends the backup's life. -/
def retire : Transaction Unit := do
  probe (.invalidBackup "could not allocate retired snapshot name")
  edit (.io "retire schema backup" (backups.root ++ [loaded.name])) fun store =>
    { store with backups := Function.update store.backups loaded.name none }
  probe (.io "sync directory" backups.root)

end LoadedBackup

def transactionName (fromVersion : Option Nat) (toVersion : Nat) : String :=
  match fromVersion with
  | some version => "from-" ++ toString version ++ "-to-" ++ toString toVersion
  | none => "from-new-to-" ++ toString toVersion

namespace BackupStore
variable (host : Host) (backups : BackupStore)

def loadNamed (name : String) : Transaction LoadedBackup := do
  if !safeName name then throw (.invalidBackup "pending transaction has an unsafe snapshot name")
  probe (.io "inspect pending schema backup" (backups.root ++ [name]))
  match ← look fun store => store.backups name with
  | none => throw (.io "inspect pending schema backup" (backups.root ++ [name]))
  | some .other =>
    throw (.invalidBackup ("pending snapshot is not a real directory: " ++ Path.display (backups.root ++ [name])))
  | some (.directory manifest) => LoadedBackup.load backups name manifest

def removeOrphanTransaction (name : String) (fromVersion : Option Nat) (toVersion : Nat) : Transaction Unit := do
  probe (.io "inspect orphan schema backup" (backups.root ++ [name]))
  match ← look fun store => store.backups name with
  | none => pure ()
  | some .other =>
    throw (.invalidBackup ("orphan snapshot is not a real directory: " ++ Path.display (backups.root ++ [name])))
  | some (.directory manifest) =>
    let loaded ← LoadedBackup.load backups name manifest
    if loaded.manifest.fromVersion ≠ fromVersion ∨ loaded.manifest.toVersion ≠ toVersion then
      throw (.invalidBackup "orphan snapshot identity does not match its transaction name")
    loaded.verify host backups
    loaded.retire backups

/-- `BackupStore::snapshot`: nobody writes the sources while they are copied. -/
def snapshot (fromVersion : Option Nat) (toVersion : Nat) (sources : List Path) : Transaction LoadedBackup := do
  probe (.io "list schema backups" backups.root)
  let name := transactionName fromVersion toVersion
  backups.removeOrphanTransaction host name fromVersion toVersion
  probe (.io "create managed schema directory" backups.root)
  let taken ← checked (← look fun store => DataSchema.snapshot host store.disk sources)
  let manifest : BackupManifest := ⟨1, backups.appId, fromVersion, toVersion, taken⟩
  probe (.io "copy application data" backups.root)
  probe (.io "sync directory" backups.root)
  edit (.io "publish schema backup" (backups.root ++ [name])) fun store =>
    { store with backups := Function.update store.backups name (some (.directory (some manifest))) }
  probe (.io "sync directory" backups.root)
  LoadedBackup.load backups name (some manifest)

end BackupStore

/-! ## The migrator -/

/-- `run_migrator`: it writes what data it likes, as far as it comes, and ends. -/
def runMigrator (migrator : Path) (schema : Schema) (fromVersion : Option Nat) : Transaction Unit := do
  probe (.invalidMigrator migrator)
  probe (.startMigrator migrator)
  ExceptT.mk (Task.step
    (fun answer store => (.ok (), { store with disk := { store.disk with node := answer.written } }))
    fun answer store => some (.migrated fromVersion schema.backupPaths store.node answer.written))
  ExceptT.mk (Task.step
    (fun answer store => (match answer.exit with
      | .success => .ok ()
      | .failed status => .error (.migratorFailed migrator status)
      | .timedOut => .error (.migratorTimedOut migrator schema.migrationTimeoutMs)
      | .lost => .error (.startMigrator migrator), store)) fun _ _ => none)

/-! ## The transaction -/

def rejectRecursiveBackup (stateRoot : Path) (backupPaths : List Path) : Transaction Unit :=
  match backupPaths.find? fun source => source.isPrefixOf stateRoot || stateRoot.isPrefixOf source with
  | some source => throw (.recursiveBackup stateRoot source)
  | none => pure ()

def publishSourceReady (state : SchemaStateStore) : Option Nat → Transaction Unit
  | some version => state.publishReady version
  | none => state.clearReady

/-- The version that the journal leads to is recorded already, with its backup. -/
def committed (pending : PendingMigration) (applied : Option AppliedSchema) : Bool :=
  applied.any fun current => current.version = pending.toVersion && current.backup = pending.backup

def sourceIsCurrent (pending : PendingMigration) (applied : Option AppliedSchema) : Bool :=
  match pending.fromVersion, applied with
  | none, none => true
  | some expected, some current => current.version = expected
  | _, _ => false

def versionText (version : Option Nat) : String := (version.map toString).getD "new"

/-- What follows a restore: the fence of the version that the data has, and the journal gone. -/
def rollBack (state : SchemaStateStore) (backups : BackupStore) (loaded : LoadedBackup) (fromVersion : Option Nat) :
    Transaction Unit := do
  publishSourceReady state fromVersion
  state.clearPending
  loaded.retire backups

section Apply
variable (host : Host)

def recoverPending (state : SchemaStateStore) (backups : BackupStore) (applied : Option AppliedSchema)
    (stateRoot : Path) : Transaction Unit := do
  match ← state.readPending with
  | none => pure ()
  | some pending =>
    rejectRecursiveBackup stateRoot pending.backupPaths
    let loaded ← backups.loadNamed pending.backup
    loaded.validateIdentity pending.fromVersion pending.toVersion pending.backupPaths
    loaded.verify host backups
    if committed pending applied then
      state.publishReady pending.toVersion
      state.clearPending
    else
      if !sourceIsCurrent pending applied then
        throw (.invalidState ("pending migration " ++ versionText pending.fromVersion ++ " -> " ++
          toString pending.toVersion ++ " is incompatible with the applied schema state"))
      loaded.restore host backups
      rollBack state backups loaded pending.fromVersion

/-- The phases of one launch, in its runtime directory. -/
structure SchemaPhases where
  runtimeDir : Path
  generation : Nat

def publishPrepared (phases : SchemaPhases) : Transaction Unit :=
  atomicWrite (phases.runtimeDir ++ ["schema-prepared"]) fun store => { store with prepared := some phases.generation }

def publishComplete (phases : SchemaPhases) : Transaction Unit :=
  atomicWrite (phases.runtimeDir ++ ["schema-complete"]) fun store => { store with complete := some phases.generation }

/-- A migrator failed: the data goes back to what the backup holds. -/
def abandon (state : SchemaStateStore) (backups : BackupStore) (loaded : LoadedBackup) (fromVersion : Option Nat)
    (migration : SchemaError) : Transaction Unit := do
  match ← Job.outcome (loaded.restore host backups) with
  | .error restore => throw (.migrationRestore migration restore)
  | .ok () =>
    match ← Job.outcome (rollBack state backups loaded fromVersion) with
    | .error cleanup => throw (.migrationRestore migration cleanup)
    | .ok () => throw migration

/-- The journal is published: migrate, and record the version. -/
def commit (state : SchemaStateStore) (backups : BackupStore) (schema : Schema) (loaded : LoadedBackup)
    (fromVersion : Option Nat) : Transaction Unit := do
  let found ← look Store.node
  match schema.migrator with
  | none => pure ()
  | some migrator =>
    match ← Job.outcome (runMigrator migrator schema fromVersion) with
    | .ok () => pure ()
    | .error migration => abandon host state backups loaded fromVersion migration
  state.publish ⟨1, state.appId, schema.version, loaded.name⟩ fromVersion found
  state.publishReady schema.version
  state.clearPending

/-- From one version to the next, under the lock and without a journal. -/
def migrate (state : SchemaStateStore) (backups : BackupStore) (schema : Schema) (phases : SchemaPhases)
    (fromVersion : Option Nat) : Transaction Unit := do
  let loaded ← backups.snapshot host fromVersion schema.version schema.backupPaths
  -- the old writers' fence goes before there is a journal
  state.clearReady
  state.publishPending ⟨1, state.appId, fromVersion, schema.version, loaded.name, schema.backupPaths⟩
  publishPrepared phases
  commit host state backups schema loaded fromVersion

def applyAtWithPhases (manifest : AppManifest) (schema : Schema) (stateRoot : Path) (phases : SchemaPhases) :
    Transaction Unit := do
  rejectRecursiveBackup stateRoot schema.backupPaths
  let state ← SchemaStateStore.open stateRoot manifest.id
  state.tryLock
  let applied ← state.read
  let backups : BackupStore := ⟨state.backupsRoot, manifest.id⟩
  recoverPending host state backups applied stateRoot
  match applied with
  | none => migrate host state backups schema phases none
  | some current =>
    if current.version = schema.version then
      state.publishReady schema.version
      publishPrepared phases
    else
      if current.version > schema.version then throw (.downgrade current.version schema.version)
      migrate host state backups schema phases (some current.version)

def resolved (plan : ExecutionPlan) : Transaction Directories :=
  match plan.launchEnvironment with
  | none => throw .missingLaunchEnvironment
  | some (.error text) => throw (.invalidLaunchEnvironment text)
  | some (.ok directories) => pure directories

def apply (manifest : AppManifest) (plan : ExecutionPlan) : Transaction Unit := do
  match manifest.dataSchema with
  | none => pure ()
  | some schema =>
    if manifest.schema ≠ 2 then throw .requiresManifestV2
    let directories ← resolved plan
    match plan.generation.filter (· ≠ 0) with
    | none => throw .missingLaunchGeneration
    | some generation =>
      let phases : SchemaPhases := ⟨directories.runtimeDir, generation⟩
      applyAtWithPhases host manifest schema (directories.stateHome ++ [".remagic-schema"]) phases
      publishComplete phases

end Apply

end Remagic.DataSchema
