import Remagic.Json
import Remagic.LaunchEnvironment

/-!
# The execution plan of an application

How the runner turns a manifest and a launch descriptor into the environment of
a process: the checks before a launch, the directories that it creates, and the
variables that it sets over the resolved environment.
-/

namespace Remagic.Runner

/-! ## The system -/

structure IoFailure where
  notFound : Bool
  text : String
deriving DecidableEq

structure Metadata where
  isFile : Bool := false
  isDir : Bool := false
  isSymlink : Bool := false
  isSocket : Bool := false
  mode : Nat
  uid : Nat
  len : Nat

/-- `mode & 0o777`. -/
def Metadata.permissions (metadata : Metadata) : Nat := metadata.mode % 0o1000

/-- What the runner asks of the system, whose state is its files. `json` writes a
    value as text. -/
structure System (σ : Type) where
  metadata : PathBuf → σ → Except IoFailure Metadata
  symlinkMetadata : PathBuf → σ → Except IoFailure Metadata
  createDir (mode : Nat) : PathBuf → σ → Except IoFailure σ
  setPermissions (mode : Nat) : PathBuf → σ → Except IoFailure σ
  readDir : PathBuf → σ → Except IoFailure Unit
  readFirst : PathBuf → σ → Except IoFailure Unit
  effectiveUid : Nat
  processId : Nat
  json : Json.Value → String

inductive ExecutorError where
  | executable (path : PathBuf) (error : IoFailure)
  | notExecutable (path : PathBuf)
  | workingDirectory (path : PathBuf) (error : IoFailure)
  | notDirectory (path : PathBuf)
  | directorySymlink (path : PathBuf)
  | directoryOwner (path : PathBuf) (expected actual : Nat)
  | unsafeDirectoryMode (path : PathBuf) (mode : Nat)
  | unexpectedHomeRoot (expected actual : PathBuf)
  | unexpectedRuntimeDirectory (expected actual : PathBuf)
  | directoryPermissions (path : PathBuf) (error : IoFailure)
  | runtimeResource (kind : String) (path : PathBuf) (error : IoFailure)
  | invalidRuntimeResource (kind : String) (path : PathBuf)
  | unsafeRuntimeResource (kind : String) (path : PathBuf) (mode : Nat)
  | unreadableResource (path : PathBuf) (error : IoFailure)
  | createDirectory (path : PathBuf) (error : IoFailure)
  | missingGeneration
  | missingForegroundEpoch
  | missingLease
  | unexpectedQtfbDescriptor (profile : RuntimeProfile)
  | invalidQtfbKey (key : Int)
  | unexpectedQtfbKey (expected : Nat) (actual : Int)
  | qtfbSocket (path : PathBuf) (error : IoFailure)
  | invalidQtfbSocket (path : PathBuf)
  | unsafeQtfbSocket (path : PathBuf) (expectedUid actualUid mode : Nat)
  | agentSocket (path : PathBuf) (error : IoFailure)
  | invalidAgentSocket (path : PathBuf)
  | unsafeAgentSocket (path : PathBuf) (expectedUid actualUid mode : Nat)
  | agentToken (error : IoFailure)
  | profileDisplayMismatch (profile : RuntimeProfile) (expected actual : String)
  | profileCapabilityMissing (profile : RuntimeProfile) (capability : String)
  | headlessDisplayCapability
  | networkCapabilityMismatch (reason : String)
  | missingCapabilities (capabilities : String)
  | unsupportedDevice (product : Package.DeviceProduct)
  | unsupportedOs (version : String)
  | missingLibrary (library : String)
  | reservedEnvironment (key : String)
  | policy (reason : String)
  | nonUtf8Path (path : PathBuf)
  | joinPaths (reason : String)
deriving DecidableEq

/-- A computation on the system's files that may fail. -/
abbrev Job (σ : Type) := StateT σ (Except ExecutorError)

/-! ## What a launch is made of -/

structure LaunchDescriptor where
  resumePayload : Option Json.Value := none
  generation : Option Nat := none
  foregroundEpoch : Option Nat := none
  leaseId : Option Nat := none
  qtfbKey : Option Int := none

/-- `schema` is 2 for the manifests that are `MANIFEST_SCHEMA_V2`. -/
structure AppManifest where
  schema : Nat
  id : AppId
  exec : PathBuf
  workingDir : PathBuf
  display : String
  capabilities : List String
  runtime : RuntimeRequirements
  environment : Variables
  supportedDevices : List Package.DeviceProduct
  supportedOs : List String

def manifestSchemaV2 : Nat := 2

structure PlatformRuntime where
  device : DeviceProfile
  capabilities : List String
  qtfbSocket : PathBuf
  agentSocket : PathBuf
  path : String
  librarySearchDirs : List PathBuf
  zoneinfoRoot : PathBuf
  homeRoot : PathBuf
  runtimeRoot : PathBuf
  networkEnforcement : NetworkEnforcement

structure ExecutionPlan where
  generation : Option Nat
  vars : Variables
  launchEnvironment : Option LaunchEnvironment
  clearInheritedEnvironment : Bool

def approvedLibraryDirs : List PathBuf :=
  ["/home/root/apps/remagic/lib", "/usr/lib/plugins/scenegraph", "/usr/lib", "/lib"].map PathBuf.ofString

namespace Executor
variable {σ : Type} (system : System σ)

def policy {α : Type} (checked : Checked α) : Job σ α :=
  match checked with
  | .ok value => pure value
  | .error error => throw (.policy error.text)

/-- A question to the system, with the error that a failure becomes. -/
def ask {α : Type} (question : σ → Except IoFailure α) (error : IoFailure → ExecutorError) : Job σ α := fun files =>
  match question files with
  | .ok answer => .ok (answer, files)
  | .error failure => .error (error failure)

/-- An edit of the system's files. -/
def edit (change : σ → Except IoFailure σ) (error : IoFailure → ExecutorError) : Job σ Unit := fun files =>
  match change files with
  | .ok files => .ok ((), files)
  | .error failure => .error (error failure)

def refuse (condition : Prop) [Decidable condition] (error : ExecutorError) : Job σ Unit :=
  if condition then throw error else pure ()

/-- `mode & 0o022 != 0`: the group or others may write. -/
def sharedWritable (mode : Nat) : Bool := mode &&& 0o022 ≠ 0

/-! ## Checks before a launch -/

def validateProgram (manifest : AppManifest) : Job σ Unit := do
  let executable ← ask (system.metadata manifest.exec) (.executable manifest.exec)
  refuse (¬ executable.isFile ∨ executable.mode &&& 0o111 = 0) (.notExecutable manifest.exec)
  let workingDir ← ask (system.metadata manifest.workingDir) (.workingDirectory manifest.workingDir)
  refuse (¬ workingDir.isDir) (.notDirectory manifest.workingDir)

def validateProfileCapability (manifest : AppManifest) : Option String → Job σ Unit
  | some required => refuse (required ∉ manifest.capabilities) (.profileCapabilityMissing manifest.runtime.profile required)
  | none => refuse (manifest.capabilities.any (hasPrefix "display:")) .headlessDisplayCapability

def validateNetworkCapability (manifest : AppManifest) : Job σ Unit :=
  let hasOutbound := "network:outbound-v1" ∈ manifest.capabilities
  let hasInbound := "network:listen-v1" ∈ manifest.capabilities
  let hasLanPeer := "network:lan-peer-v1" ∈ manifest.capabilities
  match manifest.runtime.network.mode with
  | .deny => refuse (hasOutbound ∨ hasInbound ∨ hasLanPeer)
      (.networkCapabilityMismatch "deny policy may not request network")
  | .httpsOnly | .outbound => refuse (¬ hasOutbound ∨ hasInbound ∨ hasLanPeer)
      (.networkCapabilityMismatch "outbound policy requires only network:outbound-v1")
  | .inbound => refuse (¬ hasInbound ∨ hasOutbound ∨ hasLanPeer)
      (.networkCapabilityMismatch "inbound policy requires only network:listen-v1")
  | .lanPeer => refuse (¬ hasLanPeer ∨ hasOutbound ∨ hasInbound)
      (.networkCapabilityMismatch "LAN peer policy requires only network:lan-peer-v1")

def validateProfileContract (manifest : AppManifest) : Job σ Unit := do
  if manifest.schema ≠ manifestSchemaV2 then pure ()
  else
    let (display, capability) := match manifest.runtime.profile with
      | .qtfbCompat => ("qtfb", some "display:qtfb-v1")
      | .nativeV2 => ("quill", some "display:surface-v2")
      | .headless => ("none", none)
    refuse (manifest.display ≠ display) (.profileDisplayMismatch manifest.runtime.profile display manifest.display)
    validateProfileCapability manifest capability
    validateNetworkCapability manifest

def validatePlatformDirectoryRoots (manifest : AppManifest) (platform : PlatformRuntime) : Job σ Unit :=
  if manifest.schema ≠ manifestSchemaV2 then pure ()
  else
    match manifest.runtime.directories with
    | none => throw (.policy "runtime directories are required")
    | some directories => do
      refuse (¬ directories.home.same platform.homeRoot) (.unexpectedHomeRoot platform.homeRoot directories.home)
      let expected := platform.runtimeRoot.join (.ofString manifest.id.value)
      refuse (¬ directories.runtimeDir.same expected) (.unexpectedRuntimeDirectory expected directories.runtimeDir)

def validatePlatformCapabilities (manifest : AppManifest) (platform : PlatformRuntime) : Job σ Unit :=
  let missing := manifest.capabilities.filter fun capability => capability ∉ platform.capabilities
  refuse (missing ≠ []) (.missingCapabilities (String.intercalate ", " missing))

/-- `validate_qtfb_socket` and `validate_agent_socket`, which differ in the bits of the
    mode that make a socket unsafe. -/
def validateSocket (path : PathBuf) (shared : Nat) (missing : IoFailure → ExecutorError) (invalid : ExecutorError)
    (isUnsafe : Nat → Nat → Nat → ExecutorError) : Job σ Unit := do
  refuse (¬ path.isAbsolute ∨ path.climbs) invalid
  let metadata ← ask (system.symlinkMetadata path) missing
  refuse (¬ metadata.isSocket) invalid
  refuse (metadata.uid ≠ system.effectiveUid ∨ metadata.mode &&& shared ≠ 0)
    (isUnsafe system.effectiveUid metadata.uid metadata.permissions)

def validateQtfbSocket (path : PathBuf) : Job σ Unit :=
  validateSocket system path 0o022 (.qtfbSocket path) (.invalidQtfbSocket path) (.unsafeQtfbSocket path)

def validateAgentSocket (path : PathBuf) : Job σ Unit :=
  validateSocket system path 0o077 (.agentSocket path) (.invalidAgentSocket path) (.unsafeAgentSocket path)

def validateReadonlyResourceMode (path : PathBuf) (kind : String) (metadata : Metadata) : Job σ Unit :=
  refuse (sharedWritable metadata.permissions) (.unsafeRuntimeResource kind path metadata.permissions)

def validateReadableDirectory (path : PathBuf) (kind : String) : Job σ Unit := do
  let metadata ← ask (system.metadata path) (.runtimeResource kind path)
  refuse (¬ metadata.isDir) (.invalidRuntimeResource kind path)
  validateReadonlyResourceMode path kind metadata
  ask (system.readDir path) (.runtimeResource kind path)

/-- No caller takes an empty file. -/
def validateReadableRegularFile (path : PathBuf) (kind : String) : Job σ Unit := do
  let metadata ← ask (system.metadata path) (.runtimeResource kind path)
  refuse (¬ metadata.isFile ∨ metadata.len = 0) (.invalidRuntimeResource kind path)
  validateReadonlyResourceMode path kind metadata
  ask (system.readFirst path) (.runtimeResource kind path)

def validateRuntimeResources (manifest : AppManifest) (platform : PlatformRuntime) : Job σ Unit := do
  if manifest.schema ≠ manifestSchemaV2 then pure ()
  else
    if manifest.runtime.profile = .qtfbCompat then validateQtfbSocket system platform.qtfbSocket
    if "agent:pi-v1" ∈ manifest.capabilities then validateAgentSocket system platform.agentSocket
    for directory in manifest.runtime.fonts.directories do
      validateReadableDirectory system directory "font directory"
    match manifest.runtime.fonts.fontconfigFile with
    | some file => validateReadableRegularFile system file "fontconfig file"
    | none => pure ()
    match manifest.runtime.certificates.caBundle with
    | some bundle => validateReadableRegularFile system bundle "CA bundle"
    | none => pure ()
    match manifest.runtime.certificates.caDirectory with
    | some directory => validateReadableDirectory system directory "CA directory"
    | none => pure ()
    validateReadableRegularFile system (platform.zoneinfoRoot.join (.ofString manifest.runtime.timezone)) "timezone data"

/-- `validate_launch_descriptor`: the generation, unless it is zero. -/
def validateLaunchDescriptor (manifest : AppManifest) (descriptor : LaunchDescriptor) : Job σ (Option Nat) := do
  let generation := descriptor.generation.filter (· ≠ 0)
  if manifest.schema = manifestSchemaV2 then
    refuse generation.isNone .missingGeneration
    refuse (descriptor.foregroundEpoch.filter (· ≠ 0)).isNone .missingForegroundEpoch
    refuse (descriptor.leaseId.filter (· ≠ 0)).isNone .missingLease
  pure generation

def resolveQtfbKey (manifest : AppManifest) (descriptor : LaunchDescriptor) : Job σ (Option Int) := do
  if ¬ (manifest.schema ≠ manifestSchemaV2 ∨ manifest.runtime.profile = .qtfbCompat) then
    refuse descriptor.qtfbKey.isSome (.unexpectedQtfbDescriptor manifest.runtime.profile)
    pure none
  else
    let expected := qtfbKeyForApp manifest.id
    let actual := descriptor.qtfbKey.getD expected
    refuse (actual ≤ 0) (.invalidQtfbKey actual)
    refuse (actual ≠ expected) (.unexpectedQtfbKey expected actual)
    pure (some actual)

/-- `candidate.exists()`. -/
def existing (candidates : List PathBuf) : Job σ (Option PathBuf) := fun files =>
  .ok (candidates.find? fun candidate => (system.metadata candidate files).isOk, files)

/-- `env::split_paths`. -/
def splitPaths (value : String) : List PathBuf := (PathBuf.ofString value).splitOn PathBuf.colon

def resolveRequiredLibraries (manifest : AppManifest) (platform : PlatformRuntime) : Job σ (List PathBuf) := do
  let searchDirs := platform.librarySearchDirs ++
    (if manifest.schema ≠ manifestSchemaV2 then (manifest.environment["LD_LIBRARY_PATH"]?.map splitPaths).getD [] else [])
  manifest.runtime.requiredLibraries.mapM fun library => do
    match ← existing system ((PathBuf.distinct searchDirs).map fun directory => directory.join (.ofString library)) with
    | none => throw (.missingLibrary library)
    | some found =>
      validateReadableRegularFile system found "dynamic library"
      pure found

def validateApplicationEnvironment (manifest : AppManifest) : Job σ Unit :=
  if manifest.schema = manifestSchemaV2 then
    match manifest.environment.keys.find? fun key => isPlatformReservedEnvironment key ∨ key = "QTFB_KEY" with
    | some key => throw (.reservedEnvironment key)
    | none => pure ()
  else pure ()

def validateDeviceCompatibility (manifest : AppManifest) (platform : PlatformRuntime) : Job σ Unit := do
  refuse (manifest.supportedDevices ≠ [] ∧ platform.device.product ∉ manifest.supportedDevices)
    (.unsupportedDevice platform.device.product)
  refuse (manifest.supportedOs ≠ [] ∧ platform.device.osVersion ∉ manifest.supportedOs)
    (.unsupportedOs platform.device.osVersion)

/-! ## Directories -/

/-- The path up to each of its components in turn. -/
def ancestors (path : PathBuf) : List PathBuf :=
  let root : PathBuf := if path.isAbsolute then [PathBuf.slash] else []
  (if path.isAbsolute then [root] else []) ++
    (List.range path.components.length).map fun count => (path.components.take (count + 1)).foldl PathBuf.join root

def createDirectoryWithoutSymlinks (path : PathBuf) : Job σ Unit := do
  for current in ancestors path do
    fun files =>
      match system.symlinkMetadata current files with
      | .ok metadata =>
        if metadata.isSymlink then .error (.directorySymlink current)
        else if ¬ metadata.isDir then .error (.notDirectory current)
        else .ok ((), files)
      | .error failure =>
        if failure.notFound then edit (system.createDir 0o700 current) (.createDirectory current) files
        else .error (.createDirectory current failure)

def validateOwnedDirectory (path : PathBuf) : Job σ Unit := do
  let metadata ← ask (system.symlinkMetadata path) (.createDirectory path)
  refuse metadata.isSymlink (.directorySymlink path)
  refuse (¬ metadata.isDir) (.notDirectory path)
  refuse (metadata.uid ≠ system.effectiveUid) (.directoryOwner path system.effectiveUid metadata.uid)
  refuse (sharedWritable metadata.permissions) (.unsafeDirectoryMode path metadata.permissions)
  ask (system.readDir path) (.unreadableResource path)

def privateDirectories (directories : RuntimeDirectories) : List PathBuf :=
  [directories.configHome, directories.dataHome, directories.stateHome, directories.cacheHome, directories.runtimeDir]

def createRuntimeDirectories (directories : RuntimeDirectories) : Job σ Unit := do
  policy directories.validate
  for directory in directories.home :: privateDirectories directories do
    createDirectoryWithoutSymlinks system directory
    validateOwnedDirectory system directory
  for directory in privateDirectories directories do
    edit (system.setPermissions 0o700 directory) (.directoryPermissions directory)
    let metadata ← ask (system.metadata directory) (.createDirectory directory)
    refuse (metadata.permissions ≠ 0o700) (.unsafeDirectoryMode directory metadata.permissions)

/-! ## Variables -/

def pathText (path : PathBuf) : Job σ String :=
  match path.text? with
  | some text => pure text
  | none => throw (.nonUtf8Path path)

def joinPaths (paths : List PathBuf) : Job σ String :=
  match PathBuf.joinPaths paths with
  | .error reason => throw (.joinPaths reason)
  | .ok joined =>
    match joined.text? with
    | some text => pure text
    | none => throw (.joinPaths "joined path is not UTF-8")

/-- The members stand in the order of their names. -/
def tokenValue (appId : AppId) (generation : Nat) (descriptor : LaunchDescriptor) : Json.Value :=
  let natural (value : Nat) : Json.Value := .number (.integer value)
  .object [("app_id", .string appId.value), ("foreground_epoch", natural (descriptor.foregroundEpoch.getD 0)),
    ("generation", natural generation), ("lease_id", (descriptor.leaseId.map natural).getD .null)]

def insertTokenVariables (vars : Variables) (appId : AppId) (generation : Option Nat) (descriptor : LaunchDescriptor) :
    Variables :=
  match generation with
  | none => vars
  | some generation =>
    let vars := vars.insert "REMAGIC_APP_GENERATION" (toString generation)
    vars.insert "REMAGIC_APP_TOKEN" (system.json (tokenValue appId generation descriptor))

def insertDescriptorVariables (vars : Variables) (descriptor : LaunchDescriptor) : Variables :=
  let vars := insertSome vars "REMAGIC_FOREGROUND_EPOCH" (descriptor.foregroundEpoch.map toString)
  let vars := insertSome vars "REMAGIC_DISPLAY_LEASE_ID" (descriptor.leaseId.map toString)
  insertSome vars "REMAGIC_RESUME_PAYLOAD" ((descriptor.resumePayload.filter fun value => !value.isNull).map system.json)

def defaultSocket : String := "/run/remagic/control.sock"

def insertPlatformVariables (vars : Variables) (appId : AppId) (generation : Option Nat) (qtfbKey : Option Int)
    (descriptor : LaunchDescriptor) (platform : PlatformRuntime) : Job σ Variables := do
  let vars := vars.insert "PATH" platform.path
  let vars ← (match qtfbKey with
    | none => pure vars
    | some key => do
      let vars := vars.insert "QTFB_KEY" (toString key)
      pure (vars.insert "REMAGIC_QTFB_SOCKET" (← pathText platform.qtfbSocket)) : Job σ Variables)
  let vars := vars.insert "REMAGIC_SOCKET" defaultSocket
  let vars := vars.insert "REMAGIC_APP_ID" appId.value
  let vars := vars.insert "REMAGIC_LAUNCH_ID" s!"{appId.value}-{system.processId}"
  let vars := vars.insert "REMAGIC_MANAGED" "1"
  let vars := insertTokenVariables system vars appId generation descriptor
  pure (insertDescriptorVariables system vars descriptor)

def insertFontDirectories (vars : Variables) (fontDirectories : List PathBuf) : Job σ Variables := do
  if fontDirectories = [] then pure vars
  else
    let directories ← joinPaths fontDirectories
    let vars := vars.insert "QT_QPA_FONTDIR" directories
    pure (vars.insert "REMAGIC_FONT_DIRECTORIES" directories)

/-- `directories.retain(|directory| directory.is_dir())`. -/
def retained (directories : List PathBuf) : Job σ (List PathBuf) := fun files =>
  .ok (directories.filter fun directory => (system.metadata directory files).toOption.any (·.isDir), files)

def approvedLibraryPath (resolvedLibraries : List PathBuf) (platform : PlatformRuntime) : Job σ String := do
  let directories := approvedLibraryDirs ++ platform.librarySearchDirs ++ resolvedLibraries.filterMap PathBuf.parent
  let directories ← retained system (PathBuf.distinct directories)
  for directory in directories do
    validateReadableDirectory system directory "dynamic library directory"
  joinPaths directories

/-- One turn of the loop of `insert_shared_storage_variables`. -/
def insertSharedStorage (vars : Variables) (capabilities : List String) (capability key : String) (path : PathBuf) :
    Job σ Variables := do
  if capability ∉ capabilities then pure vars
  else
    createDirectoryWithoutSymlinks system path
    validateOwnedDirectory system path
    pure (vars.insert key (← pathText path))

def insertSharedStorageVariables (vars : Variables) (capabilities : List String) (platform : PlatformRuntime) :
    Job σ Variables := do
  let vars ← insertSharedStorage system vars capabilities "storage:books-write-v1" "REMAGIC_BOOKS_DIR"
    (platform.homeRoot.join (.ofString ".local/share/remarkable/xochitl"))
  insertSharedStorage system vars capabilities "storage:wallpapers-write-v1" "REMAGIC_WALLPAPERS_DIR"
    (platform.homeRoot.join (.ofString ".local/share/remagic/wallpapers"))

def appendPlatformVariables (vars : Variables) (appId : AppId) (generation : Option Nat) (qtfbKey : Option Int)
    (descriptor : LaunchDescriptor) (directories : RuntimeDirectories) (fontDirectories resolvedLibraries : List PathBuf)
    (capabilities : List String) (platform : PlatformRuntime) : Job σ Variables := do
  let vars ← insertPlatformVariables system vars appId generation qtfbKey descriptor platform
  let vars := vars.insert "REMAGIC_RUNTIME_DIR" (← pathText directories.runtimeDir)
  let vars ← insertFontDirectories vars fontDirectories
  let vars := vars.insert "LD_LIBRARY_PATH" (← approvedLibraryPath system resolvedLibraries platform)
  insertSharedStorageVariables system vars capabilities platform

def hexDigit (value : Nat) : Char := "0123456789abcdef".toList.getD value '0'

/-- `entropy` is what the read of 32 random bytes gives. -/
def randomAgentToken (entropy : Except IoFailure (Vector UInt8 32)) : Job σ String :=
  match entropy with
  | .error failure => throw (.agentToken failure)
  | .ok bytes => pure (String.ofList (bytes.toList.flatMap fun byte => [hexDigit (byte.toNat / 16), hexDigit (byte.toNat % 16)]))

def agentTokenKey : String := "REMAGIC_AGENT_TOKEN"

def insertAgentVariable (entropy : Except IoFailure (Vector UInt8 32)) (vars : Variables) (platform : PlatformRuntime) :
    Job σ Variables := do
  let vars := vars.insert "REMAGIC_AGENT_SOCKET" (← pathText platform.agentSocket)
  let vars := vars.insert agentTokenKey (← randomAgentToken entropy)
  pure (vars.insert "REMAGIC_AGENT_PRINCIPAL" "foreground")

/-! ## The plan -/

variable (entropy : Except IoFailure (Vector UInt8 32)) (manifest : AppManifest) (platform : PlatformRuntime)

def insertAgentVariables (vars : Variables) : Job σ Variables :=
  if "agent:pi-v1" ∈ manifest.capabilities then insertAgentVariable entropy vars platform else pure vars

def prepareV2Execution (descriptor : LaunchDescriptor) (generation : Option Nat) (qtfbKey : Option Int)
    (resolvedLibraries : List PathBuf) : Job σ ExecutionPlan := do
  let environment ← policy (LaunchEnvironment.resolve manifest.id manifest.runtime manifest.environment resolvedLibraries
    platform.capabilities platform.path platform.networkEnforcement platform.device)
  createRuntimeDirectories system environment.directories
  let vars ← appendPlatformVariables system environment.vars manifest.id generation qtfbKey descriptor
    environment.directories manifest.runtime.fonts.directories resolvedLibraries manifest.capabilities platform
  let vars ← insertAgentVariables entropy manifest platform vars
  let environment := { environment with vars := vars }
  policy environment.validate
  pure { generation, vars := environment.vars, launchEnvironment := some environment, clearInheritedEnvironment := true }

def prepareLegacyExecution (descriptor : LaunchDescriptor) (generation : Option Nat) (qtfbKey : Option Int) :
    Job σ ExecutionPlan := do
  let vars ← insertPlatformVariables system manifest.environment manifest.id generation qtfbKey descriptor platform
  let vars ← insertAgentVariables entropy manifest platform vars
  pure { generation, vars, launchEnvironment := none, clearInheritedEnvironment := false }

def prepareExecution (descriptor : LaunchDescriptor) : Job σ ExecutionPlan := do
  validateProgram system manifest
  policy (manifest.runtime.validate (manifest.schema = manifestSchemaV2))
  validateProfileContract manifest
  validatePlatformDirectoryRoots manifest platform
  validatePlatformCapabilities manifest platform
  validateRuntimeResources system manifest platform
  let generation ← validateLaunchDescriptor manifest descriptor
  let qtfbKey ← resolveQtfbKey manifest descriptor
  let resolvedLibraries ← resolveRequiredLibraries system manifest platform
  validateApplicationEnvironment manifest
  validateDeviceCompatibility manifest platform
  if manifest.schema = manifestSchemaV2 then
    prepareV2Execution system entropy manifest platform descriptor generation qtfbKey resolvedLibraries
  else prepareLegacyExecution system entropy manifest platform descriptor generation qtfbKey

end Executor
end Remagic.Runner
