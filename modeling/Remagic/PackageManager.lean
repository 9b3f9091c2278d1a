import Remagic.PackageDisk

/-!
# The package manager

Preparing, installing, rolling back and uninstalling a bundle, and what recovery
does with the journal of an install that did not finish.
-/

namespace Remagic.Package
open Tasks

structure InstallOutcome where
  appId : AppId
  version : String
  contentId : ContentId
  previousContentId : Option ContentId
  deriving DecidableEq

structure UninstallOutcome where
  appId : AppId
  dataPurged : Bool
  deriving DecidableEq

/-- A bundle that passed every check, unpacked in the staging directory. -/
structure PreparedPackage (Content : Type) where
  bundle : BundleV1
  manifest : AppManifest
  manifestBytes : Content
  stageRoot : String

inductive EntryKind where
  | file
  | dir
  | other
  deriving DecidableEq

/-- An entry of an archive whose paths are Unicode text; an archive's names are bytes. -/
structure ArchiveEntry (Content : Type) where
  path : String
  kind : EntryKind
  mode : Nat
  content : Content

variable {Content : Type} (formats : Formats Content)

/-! ## Recovery -/

def restoreCurrent (app : AppId) : Option ContentId → Transaction Content Unit
  | some previous => atomicSymlink app previous
  | none => removeCurrent app

def restoreManifest (app : AppId) : Option (Published Content) → Transaction Content Unit
  | some text => writeManifest app text
  | none => removeManifest app

def restoreState (app : AppId) : Option InstalledPackageStateV1 → Transaction Content Unit
  | some state => writeState app state
  | none => removeState app

/-- What the journal of the application undoes. -/
def undo (app : AppId) (journal : TransactionJournalV1 Content) : Transaction Content Unit := do
  restoreCurrent app journal.previousContentId
  restoreManifest app journal.previousManifest
  restoreState app journal.previousState
  if !journal.targetPreexisted then removeTree (releaseSlot app journal.targetContentId)

def recoverJournal (name : String) : Transaction Content Unit := do
  match ← look (.journal name) fun disk => disk.journals.lookup name with
  | none => throw (.io (.journal name))
  | some journal =>
    if journal.schema ≠ 1 then throw (.state "unsupported transaction journal")
    match AppId.new journal.appId with
    | .error rejected => throw (.state rejected)
    | .ok app =>
      undo app journal
      removeJournal name

def recoverAll : Transaction Content Unit := do
  let names ← readDir .stateRoot fun disk => disk.journals.keys
  Job.each recoverJournal names

def recoverFor (app : AppId) : Transaction Content Unit := do
  if (← glance fun disk => disk.journals.lookup app.value).isSome then recoverJournal app.value

/-! ## Preparing a bundle -/

def maxFiles : Nat := 100000
def maxExpandedBytes : Nat := 2147483648

/-- Unpack the archive's entries, having seen some paths, files and bytes. -/
def unpack (slot : Slot Content) : List (ArchiveEntry Content) → List String → Nat → Nat → Transaction Content Unit
  | [], _, _, _ => pure ()
  | entry :: rest, seen, fileCount, expanded => do
    if !safeRelative entry.path || seen.contains (normal entry.path) then throw (.unsafePath entry.path)
    match entry.kind with
    | .dir =>
      probe slot.place
      unpack slot rest (normal entry.path :: seen) fileCount expanded
    | .other => throw (.unsupportedEntry entry.path)
    | .file =>
      if fileCount + 1 > maxFiles || expanded + formats.size entry.content > maxExpandedBytes then throw .archiveLimit
      if !safeMode (entry.mode &&& 0o7777) then throw (.unsafeMode entry.path (entry.mode &&& 0o7777))
      probe slot.place
      -- a name that holds a NUL cannot be opened
      if (normal entry.path).toList.contains '\x00' then throw (.io slot.place)
      change slot.place (slot.edit fun tree => tree.insert (normal entry.path) ⟨entry.content, entry.mode &&& 0o7777⟩)
      unpack slot rest (normal entry.path :: seen) (fileCount + 1) (expanded + formats.size entry.content)

/-- `read_limited`: a file of the stage, if it is there and not too large. -/
def readLimited (place : Place) (limit : Nat) (path : String) (tree : Tree Content) : Except PackageError Content :=
  match tree.lookup path with
  | none => .error (.io place)
  | some file => if formats.size file.content > limit then .error .archiveLimit else .ok file.content

/-- What is checked once the archive is unpacked. -/
def verifyStage (stageRoot : String) (device : DeviceProfile) (tree : Tree Content) :
    Except PackageError (PreparedPackage Content) := do
  let bundleBytes ← readLimited formats (.stage stageRoot) (4 * 1024 * 1024) "bundle.json" tree
  match formats.bundle bundleBytes with
  | .error message => throw (.bundle message)
  | .ok bundle =>
    validateBundle bundle
    verifyInventory formats tree (.stage stageRoot) bundle
    let manifestBytes ← readLimited formats (.stage stageRoot) (1024 * 1024) bundle.manifestPath tree
    match formats.manifest manifestBytes with
    | .error message => throw (.manifest message)
    | .ok manifest =>
      validateManifestContract bundle manifest device
      return ⟨bundle, manifest, manifestBytes, stageRoot⟩

def prepareAt (archive : List (ArchiveEntry Content)) (stageRoot : String) (device : DeviceProfile) :
    Transaction Content (PreparedPackage Content) := do
  probe .archive
  unpack formats (stageSlot stageRoot) archive [] 0 0
  let tree ← look (.stage stageRoot) (stageSlot stageRoot).get
  checked (verifyStage formats stageRoot device (tree.getD ∅))

/-- `PackageManager::prepare`, under a new name in the staging directory. -/
def prepare (archive : List (ArchiveEntry Content)) (stageRoot : String) (device : DeviceProfile) :
    Transaction Content (PreparedPackage Content) := do
  recoverAll
  probe (.stage stageRoot)
  -- `create_dir` refuses a name that is taken
  changeWhen (.stage stageRoot) (fun disk => (disk.staging.lookup stageRoot).isNone)
    ((stageSlot stageRoot).set (some ∅))
  match ← Job.outcome (prepareAt formats archive stageRoot device) with
  | .ok prepared => return prepared
  | .error error =>
    let _ ← Job.outcome (removeTree (stageSlot stageRoot))
    throw error

/-! ## Installing -/

def allowedRoots : List Path :=
  [["home", "root", ".config"], ["home", "root", ".local", "share"], ["home", "root", ".local", "state"],
    ["home", "root", ".cache"]]

def RuntimeDirectories.paths (directories : RuntimeDirectories) : List Path :=
  [directories.configHome, directories.dataHome, directories.stateHome, directories.cacheHome]

/-- Strictly below one of the roots. -/
def allowedPath (path : Path) : Bool := allowedRoots.any fun root => root.isPrefixOf path && path ≠ root

def ensureApplicationDirectories (manifest : AppManifest) : Transaction Content Unit :=
  match manifest.directories with
  | none => pure ()
  | some directories => Job.each (fun path => do
      if !allowedPath path then throw (.unsafeDataPath path)
      probe (.data path)
      probe (.data path)
      probe (.data path)) directories.paths

def prepareInstallPaths (app : AppId) (prepared : PreparedPackage Content) : Transaction Content Unit := do
  probe .root
  probe .root
  probe .root
  ensureApplicationDirectories prepared.manifest
  probe (.releases app)

def readState (app : AppId) : Transaction Content InstalledPackageStateV1 := do
  match ← look (.state app) fun disk => (disk.apps app).state with
  | none => throw (.io (.state app))
  | some state =>
    if state.schema ≠ 1 || state.appId ≠ app.value then throw (.state "installed package state mismatch")
    return state

def removeStaleReleases (app : AppId) (state : InstalledPackageStateV1) : Transaction Content Unit := do
  let names ← readDir (.releases app) (releaseNames app)
  Job.each (fun name =>
    if name = state.currentContentId ∨ some name = state.previousContentId then pure ()
    else removeTree (releaseSlot app name)) names

def beginInstall (app : AppId) (prepared : PreparedPackage Content) (targetPreexisted : Bool) :
    Transaction Content (Option ContentId) := do
  let previousState ← look (.state app) fun disk => (disk.apps app).state
  let current ← glance fun disk => (disk.apps app).current
  let previousContentId := (previousState.map InstalledPackageStateV1.currentContentId).or current
  let previousManifest ← look (.manifest app) fun disk => (disk.apps app).manifest
  writeJournal app.value
    { appId := app.value, targetContentId := prepared.bundle.contentId, targetPreexisted, previousContentId,
      previousManifest, previousState }
  return previousContentId

/-- The state that an install of the bundle publishes. -/
def nextState (app : AppId) (bundle : BundleV1) (previousContentId : Option ContentId) : InstalledPackageStateV1 :=
  { appId := app.value, package := bundle.package, currentContentId := bundle.contentId,
    previousContentId := previousContentId.filter (· ≠ bundle.contentId), version := bundle.version }

def InstallOutcome.of (app : AppId) (bundle : BundleV1) (previousContentId : Option ContentId) : InstallOutcome :=
  ⟨app, bundle.version, bundle.contentId, previousContentId⟩

def publishInstall (app : AppId) (prepared : PreparedPackage Content) (previousContentId : Option ContentId) :
    Transaction Content InstallOutcome := do
  let text ← checked (materializeManifestBytes formats prepared.manifestBytes app prepared.bundle.contentId)
  let target := releaseSlot app prepared.bundle.contentId
  -- `fs::rename` moves the stage onto its release, which must not hold anything
  changeWhen target.place (fun disk => ((stageSlot prepared.stageRoot).get disk).isSome && (target.files disk).isEmpty)
    fun disk => (stageSlot prepared.stageRoot).set none (target.set ((stageSlot prepared.stageRoot).get disk) disk)
  makeReadOnly target
  writeManifest app text
  atomicSymlink app prepared.bundle.contentId
  writeState app (nextState app prepared.bundle previousContentId)
  changeWhen (.journal app.value) (fun disk => (disk.journals.lookup app.value).isSome) (eraseJournal app.value)
  removeStaleReleases app (nextState app prepared.bundle previousContentId)
  return .of app prepared.bundle previousContentId

def publishExistingInstall (app : AppId) (prepared : PreparedPackage Content) (previousContentId : Option ContentId) :
    Transaction Content InstallOutcome := do
  let text ← checked (materializeManifestBytes formats prepared.manifestBytes app prepared.bundle.contentId)
  writeManifest app text
  atomicSymlink app prepared.bundle.contentId
  writeState app (nextState app prepared.bundle previousContentId)
  changeWhen (.journal app.value) (fun disk => (disk.journals.lookup app.value).isSome) (eraseJournal app.value)
  removeTree (stageSlot prepared.stageRoot)
  removeStaleReleases app (nextState app prepared.bundle previousContentId)
  return .of app prepared.bundle previousContentId

/-- If the job fails, recover from its journal, whatever comes of it. -/
def orRecover {α : Type} (app : AppId) (job : Transaction Content α) : Transaction Content α := do
  match ← Job.outcome job with
  | .ok result => return result
  | .error error =>
    let _ ← Job.outcome (recoverJournal app.value)
    throw error

/-- The installed release is the bundle's. -/
def isCurrent (bundle : BundleV1) (state : InstalledPackageStateV1) (current : Option ContentId) : Bool :=
  decide (state.currentContentId = bundle.contentId ∧ state.version = bundle.version ∧ state.package = bundle.package ∧
    current = some bundle.contentId)

def finishExistingInstall (app : AppId) (prepared : PreparedPackage Content) : Transaction Content InstallOutcome := do
  let state ← readState app
  let current ← glance fun disk => (disk.apps app).current
  if isCurrent prepared.bundle state current then
    let text ← checked (materializeManifestBytes formats prepared.manifestBytes app prepared.bundle.contentId)
    writeManifest app text
    removeTree (stageSlot prepared.stageRoot)
    return ⟨app, state.version, state.currentContentId, state.previousContentId⟩
  else
    let target := releaseSlot app prepared.bundle.contentId
    let release ← look target.place target.get
    let stage ← look (.stage prepared.stageRoot) (stageSlot prepared.stageRoot).get
    checked (verifyInstalledRelease formats (release.getD ∅) (stage.getD ∅) target.place prepared.bundle)
    let previousContentId ← beginInstall app prepared true
    orRecover app (publishExistingInstall formats app prepared previousContentId)

def installStaged (prepared : PreparedPackage Content) : Transaction Content InstallOutcome := do
  let app := prepared.manifest.id
  recoverFor app
  prepareInstallPaths app prepared
  if (← glance (releaseSlot app prepared.bundle.contentId).get).isSome then
    finishExistingInstall formats app prepared
  else
    let previousContentId ← beginInstall app prepared false
    orRecover app (publishInstall formats app prepared previousContentId)

/-- `PackageManager::install`, at whose end the prepared package is dropped with its stage. -/
def install (prepared : PreparedPackage Content) : Transaction Content InstallOutcome := do
  let outcome ← Job.outcome (installStaged formats prepared)
  let _ ← Job.outcome (removeTree (stageSlot prepared.stageRoot))
  checked outcome

/-! ## Rolling back -/

/-- The releases among the names whose manifest is the application's, in the version. -/
def matching (app : AppId) (version : String) : List ContentId → Transaction Content (List ContentId)
  | [] => return []
  | name :: rest => do
    let text ← glance fun disk =>
      ((releaseSlot app name).get disk).bind fun tree => (tree.lookup "manifest.toml").map File.content
    let others ← matching app version rest
    match text.map formats.manifest with
    | some (.ok manifest) =>
      if manifest.id = app && manifest.version = version then return name :: others else return others
    | _ => return others

def releaseForVersion (app : AppId) (version : String) : Transaction Content ContentId := do
  let names ← readDir (.releases app) (releaseNames app)
  match ← matching formats app version names with
  | [only] => return only
  | _ => throw (.noRollback (app.value ++ " version " ++ version))

/-- Read and rewrite the manifest that the release holds, and check that the device fits it. -/
def rollbackManifest (app : AppId) (target : ContentId) (device : DeviceProfile) :
    Transaction Content (Published Content × AppManifest) := do
  match ← look (.release app target) fun disk =>
      ((releaseSlot app target).get disk).bind fun tree => (tree.lookup "manifest.toml").map File.content with
  | none => throw (.io (.release app target))
  | some bundled =>
    let text ← checked (materializeManifestBytes formats bundled app target)
    match formats.materialized bundled app target with
    | .error message => throw (.manifest message)
    | .ok manifest =>
      if manifest.id ≠ app || !manifest.supports device then
        throw (.compatibility "rollback release is incompatible with this device")
      return (text, manifest)

/-- The release that a rollback goes to: the one of the version, or else the previous one. -/
def rollbackTarget (app : AppId) (state : InstalledPackageStateV1) : Option String → Transaction Content ContentId
  | some version => releaseForVersion formats app version
  | none => checked (state.previousContentId.elim (.error (.noRollback app.value)) .ok)

def rollback (app : AppId) (version : Option String) (device : DeviceProfile) :
    Transaction Content InstallOutcome := do
  recoverFor app
  let state ← readState app
  let target ← rollbackTarget formats app state version
  if target = state.currentContentId then throw (.noRollback app.value)
  let found ← rollbackManifest formats app target device
  writeManifest app found.1
  atomicSymlink app target
  writeState app
    { appId := app.value, package := state.package, currentContentId := target,
      previousContentId := some state.currentContentId, version := found.2.version }
  return ⟨app, found.2.version, target, some state.currentContentId⟩

/-! ## Uninstalling -/

/-- Below one of the roots, and not among the books. -/
def purgeable (booksRoot path : Path) : Bool :=
  allowedRoots.any fun root => root.isPrefixOf path && path ≠ root && !booksRoot.isPrefixOf path

def purgeApplicationData (booksRoot : Path) (manifest : AppManifest) : Transaction Content Unit :=
  match manifest.directories with
  | none => pure ()
  | some directories => Job.each (fun path => do
      if !purgeable booksRoot path then throw (.unsafePurge path)
      probe (.data path)) directories.paths

def uninstall (booksRoot : Path) (app : AppId) (purge : Bool) : Transaction Content UninstallOutcome := do
  recoverFor app
  match ← look (.manifest app) fun disk => (disk.apps app).manifest with
  | none => throw (.io (.manifest app))
  | some text =>
    match formats.materialized text.bundled app text.release with
    | .error message => throw (.manifest message)
    | .ok manifest =>
      if manifest.kind = .system then throw (.systemApp app.value)
      if purge then purgeApplicationData booksRoot manifest
      changeWhen (.manifest app) (fun disk => (disk.apps app).manifest.isSome) (setManifest app none)
      removeAppRoot app
      removeState app
      return ⟨app, purge⟩

end Remagic.Package
