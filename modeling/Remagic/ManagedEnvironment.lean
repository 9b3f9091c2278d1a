import Remagic.AgentMessages
import Remagic.LaunchPlan
import Remagic.NumberText

/-!
# The environment as the application reads it

An application that was launched reads back from its variables what it was launched with:
its identity, the device, the surface and the lifecycle channel it may use, and the places
it was given. JSON is read and written by a library, which is a parameter here.
-/

/-! ## The device -/

namespace Remagic.Device
open Agent (isSpace)

abbrev DeviceProduct := Package.DeviceProduct

def deviceProfileSchemaV1 : Nat := 1

def codename : DeviceProduct → String
  | .paperPro => "ferrari"
  | .paperProMove => "chiappa"

inductive SurfacePixelFormat where
  | rgb565
  deriving DecidableEq

structure DeviceDisplayProfile where
  logicalWidth : Int
  logicalHeight : Int
  qtfbFormat : Nat
  pixelFormat : SurfacePixelFormat
  stride : Nat
  deriving DecidableEq

structure DeviceProfile where
  schemaVersion : Nat
  product : DeviceProduct
  codename : String
  osVersion : String
  display : DeviceDisplayProfile
  capabilities : List String
  deriving DecidableEq

inductive DeviceProfileError where
  | unsupportedSchema (version : Nat)
  | invalidProfile
  | serialize (error : String)

def DeviceProfileError.text : DeviceProfileError → String
  | .unsupportedSchema version => s!"unsupported device profile schema {version}"
  | .invalidProfile => "device profile fields are internally inconsistent"
  | .serialize error => s!"could not serialize device profile: {error}"

namespace DeviceProfile

def panelDisplay (logicalWidth : Nat) (logicalHeight : Int) (qtfbFormat : Nat) : DeviceDisplayProfile :=
  { logicalWidth, logicalHeight, qtfbFormat, pixelFormat := .rgb565, stride := logicalWidth * 2 }

def forProduct (product : DeviceProduct) (osVersion : String) : DeviceProfile where
  schemaVersion := deviceProfileSchemaV1
  product := product
  codename := Device.codename product
  osVersion := osVersion
  display := match product with
    | .paperPro => panelDisplay 1620 2160 3
    | .paperProMove => panelDisplay 954 1696 6
  capabilities := ["color", "display:qtfb-v1", "display:surface-v2", "ink:direct-v1", "input:mode-v2", "input:pen-v1",
    "input:touch-v1", "lifecycle:v2", "network:outbound-v1", "network:listen-v1", "network:lan-peer-v1",
    "storage:books-write-v1", "storage:wallpapers-write-v1", "sync:koreader-state-v1", "agent:pi-v1"]

def validate (profile : DeviceProfile) : Except DeviceProfileError Unit :=
  if profile.schemaVersion ≠ deviceProfileSchemaV1 then .error (.unsupportedSchema profile.schemaVersion)
  else if profile.codename ≠ Device.codename profile.product ∨ profile.osVersion.toList.all isSpace = true then
    .error .invalidProfile
  else
    let expected := forProduct profile.product profile.osVersion
    if profile.display ≠ expected.display ∨ profile.capabilities ≠ expected.capabilities then .error .invalidProfile
    else .ok ()

/-- `encode` is what serde makes of the profile. -/
def toJson (encode : DeviceProfile → Except String String) (profile : DeviceProfile) : Except DeviceProfileError String := do
  profile.validate
  match encode profile with
  | .ok text => .ok text
  | .error error => .error (.serialize error)

/-- The profile as the runner uses it. -/
def onPlatform (encode : DeviceProfile → Except String String) (profile : DeviceProfile) : Runner.DeviceProfile where
  product := profile.product
  osVersion := profile.osVersion
  json := (profile.toJson encode).mapError DeviceProfileError.text

end DeviceProfile
end Remagic.Device

/-! ## The lifecycle channel of a launch -/

namespace Remagic.Runner

/-- How the steps end that set the channel up, and the application's end of it. -/
structure LifecycleAnswers where
  socketPair : Except String Unit := .ok ()
  childFd : Nat
  bridge : Except String Unit := .ok ()
  clearStale : Except String Unit := .ok ()
  bind : Except String Unit := .ok ()

def lifecycleRequested (manifest : AppManifest) : Bool :=
  manifest.schema = manifestSchemaV2 ∧ "lifecycle:v2" ∈ manifest.capabilities

def injectRuntimeVariable (plan : ExecutionPlan) (key value : String) : Except String ExecutionPlan :=
  let plan := { plan with vars := plan.vars.insert key value }
  match plan.launchEnvironment with
  | none => .ok plan
  | some environment =>
    let environment := { environment with vars := environment.vars.insert key value }
    match environment.validate with
    | .ok _ => .ok { plan with launchEnvironment := some environment }
    | .error error => .error error.text

def wanted {α : Type} (value : Option α) (error : String) : Except String α :=
  match value with
  | some value => .ok value
  | none => .error error

def prepareLifecycle (answers : LifecycleAnswers) (manifest : AppManifest) (descriptor : LaunchDescriptor)
    (plan : ExecutionPlan) : Except String ExecutionPlan :=
  if lifecycleRequested manifest then do
    answers.socketPair
    let _ ← wanted plan.generation "lifecycle launch has no generation"
    let _ ← wanted (descriptor.foregroundEpoch.filter (· ≠ 0)) "lifecycle launch has no foreground epoch"
    let _ ← wanted (descriptor.leaseId.filter (· ≠ 0)) "lifecycle launch has no display lease"
    answers.bridge
    let environment ← wanted plan.launchEnvironment "lifecycle launch has no resolved environment"
    answers.clearStale
    answers.bind
    let plan ← injectRuntimeVariable plan "REMAGIC_LIFECYCLE_FD" (toString answers.childFd)
    injectRuntimeVariable plan "REMAGIC_APP_CONTROL_SOCKET"
      (environment.directories.runtimeDir.join (.ofString "control.sock")).display
  else .ok plan

/-- The variables of the process: `application_command`. -/
def applicationVariables (inherited : Variables) (plan : ExecutionPlan) : Variables :=
  if plan.clearInheritedEnvironment then plan.vars else inherited.insertAll plan.vars.toList

end Remagic.Runner

/-! ## What the application reads -/

namespace Remagic.Sdk
open Device (DeviceProfile)
open NumberText (SocketAddr)
open Runner (PathBuf Variables)

inductive ManagedEnvironmentError where
  | notManaged
  | missing (name : String)
  | invalid (name error : String)
  | appMismatch (expected actual : String)
  | missingCapability (capability : String)
  | incompleteUploadContract
  | incompleteTransferContract

structure ManagedEnvironment (V6 : Type) where
  appId : AppId
  device : DeviceProfile
  qtfbKey : Int
  qtfbSocket : PathBuf
  lifecycleFd : Int
  listenAddr : Option (SocketAddr V6)
  booksDir : Option PathBuf
  wallpapersDir : Option PathBuf
  dataHome : PathBuf
  controlSocket : PathBuf

abbrev Reading := Except ManagedEnvironmentError

section
variable (vars : Variables)

def required (name : String) : Reading String :=
  match vars[name]? with
  | some value => .ok value
  | none => .error (.missing name)

def read {α : Type} (name : String) (parsed : Except String α) : Reading α :=
  parsed.mapError (.invalid name)

/-- `parse`, of a number of 32 bits. -/
def parseI32 (name : String) : Reading Int := do
  read name (NumberText.parseInt (-0x80000000) 0x7fffffff (← required vars name))

def optionalParse {α : Type} (parse : String → Except String α) (name : String) : Reading (Option α) :=
  match vars[name]?.filter (· ≠ "") with
  | some value => some <$> read name (parse value)
  | none => .ok none

def optionalPath (name : String) : Option PathBuf := (vars[name]?.filter (· ≠ "")).map PathBuf.ofString

end

namespace ManagedEnvironment
variable {V6 : Type} (readV6 : List Char → Option (V6 × List Char)) (decode : String → Except String DeviceProfile)

def discover (vars : Variables) (expectedAppId : String) : Reading (ManagedEnvironment V6) := do
  if vars["REMAGIC_MANAGED"]? ≠ some "1" then throw .notManaged
  let appId ← read "REMAGIC_APP_ID" ((AppId.new (← required vars "REMAGIC_APP_ID")).mapError fun value =>
    s!"invalid application id: {value}")
  if appId.value ≠ expectedAppId then throw (.appMismatch expectedAppId appId.value)
  let device ← read Runner.deviceProfileEnv (decode (← required vars Runner.deviceProfileEnv))
  read Runner.deviceProfileEnv (device.validate.mapError Device.DeviceProfileError.text)
  let qtfbKey ← parseI32 vars "QTFB_KEY"
  let qtfbSocket ← required vars "REMAGIC_QTFB_SOCKET"
  let lifecycleFd ← parseI32 vars "REMAGIC_LIFECYCLE_FD"
  let listenAddr ← optionalParse vars (SocketAddr.fromStr readV6) "REMAGIC_LISTEN_ADDR"
  let dataHome ← required vars "XDG_DATA_HOME"
  let controlSocket ← required vars "REMAGIC_SOCKET"
  pure {
    appId, device, qtfbKey, lifecycleFd, listenAddr
    qtfbSocket := .ofString qtfbSocket
    booksDir := optionalPath vars "REMAGIC_BOOKS_DIR"
    wallpapersDir := optionalPath vars "REMAGIC_WALLPAPERS_DIR"
    dataHome := .ofString dataHome
    controlSocket := .ofString controlSocket }

variable (environment : ManagedEnvironment V6)

/-- The device has the capabilities, and the launch gave an address and both places. -/
def requireContract (capabilities : List String) (incomplete : ManagedEnvironmentError) : Reading Unit :=
  match capabilities.find? fun capability => capability ∉ environment.device.capabilities with
  | some capability => .error (.missingCapability capability)
  | none =>
    if environment.listenAddr.isNone ∨ environment.booksDir.isNone ∨ environment.wallpapersDir.isNone then
      .error incomplete
    else .ok ()

def requireUploadContract : Reading Unit :=
  environment.requireContract ["display:qtfb-v1", "input:touch-v1", "lifecycle:v2", "network:listen-v1",
    "storage:books-write-v1", "storage:wallpapers-write-v1"] .incompleteUploadContract

def requireTransferContract : Reading Unit :=
  environment.requireContract ["display:qtfb-v1", "input:touch-v1", "lifecycle:v2", "network:lan-peer-v1",
    "storage:books-write-v1", "storage:wallpapers-write-v1", "sync:koreader-state-v1"] .incompleteTransferContract

end ManagedEnvironment
end Remagic.Sdk
