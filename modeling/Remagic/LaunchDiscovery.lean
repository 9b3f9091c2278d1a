import Remagic.LaunchReading

/-!
# An application finds its launch

Whatever a launch set up, the application that reads its environment back finds exactly
that, and an application that has no surface or no lifecycle channel is told so.
-/

namespace Remagic.Runner
open Fallible (ok_of_bind)
open Sdk (ManagedEnvironment ManagedEnvironmentError Reading)

/-! ## What a launch writes -/

/-- The variables of a plan of the second schema, as far as an application reads them. -/
structure Written (manifest : AppManifest) (platform : PlatformRuntime) (plan : ExecutionPlan) : Prop
    extends Executor.Appended manifest.capabilities platform
      (if manifest.runtime.profile = .qtfbCompat then some (qtfbKeyForApp manifest.id : Int) else none) plan.vars where
  appId : plan.vars["REMAGIC_APP_ID"]? = some manifest.id.value
  device : ∃ json, platform.device.json = .ok json ∧ plan.vars[deviceProfileEnv]? = some json
  dataHome : ∃ text directories, plan.vars["XDG_DATA_HOME"]? = some text ∧
    manifest.runtime.directories = some directories ∧ (PathBuf.ofString text).same directories.dataHome = true
  address : plan.vars["REMAGIC_LISTEN_ADDR"]? = some (listenAddress manifest.runtime.network)
  keyless : manifest.runtime.profile ≠ .qtfbCompat → plan.vars["QTFB_KEY"]? = none
  channel : plan.vars["REMAGIC_LIFECYCLE_FD"]? = none
  clears : plan.clearInheritedEnvironment = true

namespace Executor
variable {σ : Type} {system : System σ} {manifest : AppManifest} {platform : PlatformRuntime} {descriptor : LaunchDescriptor}
  {files after : σ} {plan : ExecutionPlan}

theorem refuse_accepted {condition : Prop} [Decidable condition] {error : ExecutorError} {result : Unit × σ}
    (ok : (refuse condition error : Job σ Unit).run files = .ok result) : ¬ condition := by
  unfold refuse at ok
  split at ok
  · cases ok
  · assumption

theorem resolveQtfbKey_accepted (v2 : manifest.schema = manifestSchemaV2) {result : Option Int × σ}
    (ok : (resolveQtfbKey manifest descriptor).run files = .ok result) :
    result.1 = if manifest.runtime.profile = .qtfbCompat then some (qtfbKeyForApp manifest.id : Int) else none := by
  unfold resolveQtfbKey at ok
  by_cases surface : manifest.runtime.profile = .qtfbCompat
  · simp only [v2, surface, ne_eq, not_true_eq_false, or_true, if_false, if_true] at ok ⊢
    obtain ⟨_, _, _, ok⟩ := bind_accepted ok
    obtain ⟨_, _, expected, ok⟩ := bind_accepted ok
    cases ok
    exact congrArg some (not_not.mp (refuse_accepted expected))
  · simp only [v2, surface, ne_eq, not_true_eq_false, or_self, not_false_eq_true, if_true, if_false] at ok ⊢
    obtain ⟨_, _, _, ok⟩ := bind_accepted ok
    cases ok
    rfl

/-- An application declares that it listens if and only if it is given a port. -/
theorem validateNetworkCapability_accepted {result : Unit × σ}
    (ok : (validateNetworkCapability manifest : Job σ Unit).run files = .ok result) :
    (manifest.runtime.network.mode = .inbound ∨ manifest.runtime.network.mode = .lanPeer) ↔
      "network:listen-v1" ∈ manifest.capabilities ∨ "network:lan-peer-v1" ∈ manifest.capabilities := by
  unfold validateNetworkCapability at ok
  cases mode : manifest.runtime.network.mode <;>
    (simp only [mode] at ok
     have declared := refuse_accepted ok
     simp only [not_or, not_not] at declared
     tauto)

theorem validateProfileContract_accepted (v2 : manifest.schema = manifestSchemaV2) {result : Unit × σ}
    (ok : (validateProfileContract manifest : Job σ Unit).run files = .ok result) :
    (manifest.runtime.network.mode = .inbound ∨ manifest.runtime.network.mode = .lanPeer) ↔
      "network:listen-v1" ∈ manifest.capabilities ∨ "network:lan-peer-v1" ∈ manifest.capabilities := by
  unfold validateProfileContract at ok
  simp only [v2, ne_eq, not_true_eq_false, if_false] at ok
  obtain ⟨_, _, _, ok⟩ := bind_accepted ok
  obtain ⟨_, _, _, ok⟩ := bind_accepted ok
  exact validateNetworkCapability_accepted ok

/-- What the checks before a launch settle of its manifest. -/
structure Preflighted (manifest : AppManifest) : Prop where
  valid : manifest.runtime.validate true = .ok ()
  listens : (manifest.runtime.network.mode = .inbound ∨ manifest.runtime.network.mode = .lanPeer) ↔
    "network:listen-v1" ∈ manifest.capabilities ∨ "network:lan-peer-v1" ∈ manifest.capabilities

theorem preflight_accepted (v2 : manifest.schema = manifestSchemaV2) {found : (Option Nat × Option Int × List PathBuf) × σ}
    (ok : (preflight system manifest platform descriptor).run files = .ok found) :
    Preflighted manifest ∧ found.1.2.1 =
      if manifest.runtime.profile = .qtfbCompat then some (qtfbKeyForApp manifest.id : Int) else none := by
  obtain ⟨_, _, _, ok⟩ := bind_accepted ok
  obtain ⟨_, _, valid, ok⟩ := bind_accepted ok
  obtain ⟨_, _, contract, ok⟩ := bind_accepted ok
  obtain ⟨_, _, _, ok⟩ := bind_accepted ok
  obtain ⟨_, _, _, ok⟩ := bind_accepted ok
  obtain ⟨_, _, _, ok⟩ := bind_accepted ok
  obtain ⟨_, _, _, ok⟩ := bind_accepted ok
  obtain ⟨_, _, key, ok⟩ := bind_accepted ok
  obtain ⟨_, _, _, ok⟩ := bind_accepted ok
  cases ok
  have valid' := (policy_accepted valid).1
  rw [decide_eq_true v2] at valid'
  have keyed := resolveQtfbKey_accepted v2 key
  exact ⟨⟨valid', validateProfileContract_accepted v2 contract⟩, keyed⟩

theorem prepareV2Execution_written {generation : Option Nat} {libraries : List PathBuf}
    {entropy : Except IoFailure (Vector UInt8 32)} (apart : Apart manifest.environment)
    (ok : (prepareV2Execution system entropy manifest platform descriptor generation
      (if manifest.runtime.profile = .qtfbCompat then some (qtfbKeyForApp manifest.id : Int) else none) libraries).run files =
        .ok (plan, after)) : Written manifest platform plan := by
  obtain ⟨resolved, _, settled, ok⟩ := bind_accepted ok
  have resolves := resolve_resolves (policy_accepted settled).1
  obtain ⟨_, _, _, ok⟩ := bind_accepted ok
  obtain ⟨appended, _, appending, ok⟩ := bind_accepted ok
  obtain ⟨withAgent, _, agent, ok⟩ := bind_accepted ok
  obtain ⟨_, _, checked, ok⟩ := bind_accepted ok
  cases ok
  have validated := validate_validated (policy_accepted checked).1
  have unset {key : String} (reserved : isPlatformReservedEnvironment key = true) (free : key ∉ resolvedKeys) :
      resolved.vars[key]? = none := (resolves.touches key free).trans (apart.absent reserved)
  obtain ⟨written, channel⟩ := appendPlatformVariables_accepted appending (unset (by decide) (by decide))
    (unset (by decide) (by decide))
  obtain ⟨token, sets⟩ := insertAgentVariables_accepted agent
  -- The agent's variables are not among those that the application reads here.
  have agentless : Touches ["REMAGIC_AGENT_SOCKET", "REMAGIC_AGENT_TOKEN", "REMAGIC_AGENT_PRINCIPAL"] appended withAgent := by
    have same : withAgent = appended.insertAll (agentPairs manifest platform token) := congrArg Prod.fst sets
    rw [same]
    refine touches_insertAll appended ?_
    unfold agentPairs
    split <;> simp [agentTokenKey]
  exact {
    toPlatformed := written.toPlatformed.later agentless (by decide)
    books := written.books.of_same (agentless _ (by decide))
    wallpapers := written.wallpapers.of_same (agentless _ (by decide))
    appId := resolves.appId ▸ validated.appId
    device := resolves.device ▸ validated.device
    dataHome := by
      obtain ⟨text, found, same⟩ := validated.dataHome
      exact ⟨text, resolved.directories, found, resolves.directories, same⟩
    address := resolves.network ▸ validated.address
    keyless := fun other => validated.key (resolves.profile.trans_ne other)
    channel := (agentless _ (by decide)).trans (channel.trans (unset (by decide) (by decide)))
    clears := rfl }

/-- A plan of the second schema is written as its manifest and the platform say. -/
theorem prepareExecution_written {entropy : Except IoFailure (Vector UInt8 32)} (v2 : manifest.schema = manifestSchemaV2)
    (ok : (prepareExecution system entropy manifest platform descriptor).run files = .ok (plan, after)) :
    Preflighted manifest ∧ Written manifest platform plan := by
  have whole : (prepareExecution system entropy { manifest with environment := manifest.environment } platform descriptor).run
      files = .ok (plan, after) := ok
  obtain ⟨apart, found, checked, ready, settled, _, prepared⟩ := prepareExecution_preflighted v2 whole
  obtain ⟨preflighted, key⟩ := preflight_accepted v2 settled
  rw [key] at prepared
  exact ⟨preflighted, prepareV2Execution_written apart prepared⟩

end Executor

/-! ## The lifecycle channel -/

theorem injectRuntimeVariable_ok {plan launched : ExecutionPlan} {key value : String}
    (ok : injectRuntimeVariable plan key value = .ok launched) :
    launched.vars = plan.vars.insert key value ∧ launched.clearInheritedEnvironment = plan.clearInheritedEnvironment := by
  unfold injectRuntimeVariable at ok
  simp only at ok
  split at ok
  · cases ok
    exact ⟨rfl, rfl⟩
  · split at ok
    · cases ok
      exact ⟨rfl, rfl⟩
    · cases ok

/-- The channel's end is named if and only if the application asked for the channel. -/
theorem prepareLifecycle_ok {answers : LifecycleAnswers} {manifest : AppManifest} {descriptor : LaunchDescriptor}
    {plan launched : ExecutionPlan} (ok : prepareLifecycle answers manifest descriptor plan = .ok launched) :
    Touches ["REMAGIC_LIFECYCLE_FD", "REMAGIC_APP_CONTROL_SOCKET"] plan.vars launched.vars ∧
      launched.clearInheritedEnvironment = plan.clearInheritedEnvironment ∧
      launched.vars["REMAGIC_LIFECYCLE_FD"]? =
        if lifecycleRequested manifest then some (toString answers.childFd) else plan.vars["REMAGIC_LIFECYCLE_FD"]? := by
  unfold prepareLifecycle at ok
  by_cases requested : lifecycleRequested manifest = true
  · rw [if_pos requested] at ok
    obtain ⟨_, _, ok⟩ := ok_of_bind ok
    obtain ⟨_, _, ok⟩ := ok_of_bind ok
    obtain ⟨_, _, ok⟩ := ok_of_bind ok
    obtain ⟨_, _, ok⟩ := ok_of_bind ok
    obtain ⟨_, _, ok⟩ := ok_of_bind ok
    obtain ⟨_, _, ok⟩ := ok_of_bind ok
    obtain ⟨_, _, ok⟩ := ok_of_bind ok
    obtain ⟨_, _, ok⟩ := ok_of_bind ok
    obtain ⟨middle, first, second⟩ := ok_of_bind ok
    obtain ⟨set, clears⟩ := injectRuntimeVariable_ok first
    obtain ⟨set', clears'⟩ := injectRuntimeVariable_ok second
    rw [set', set, if_pos requested]
    refine ⟨((Touches.refl _ plan.vars).insert (by decide) _).insert (by decide) _, clears'.trans clears, ?_⟩
    exact (insert_apart _ _ (by decide)).trans (insert_here _ _ _)
  · rw [if_neg requested] at ok
    cases ok
    rw [if_neg requested]
    exact ⟨.refl _ plan.vars, rfl, rfl⟩

/-! ## What the application finds -/

variable {V6 : Type} (manifest : AppManifest) (platform : PlatformRuntime) (answers : LifecycleAnswers)

/-- What the application is to find, if it is the one that it says it is. -/
def launchedEnvironment (device : Device.DeviceProfile) (dataHome : PathBuf) : ManagedEnvironment V6 where
  appId := manifest.id
  device := device
  qtfbKey := qtfbKeyForApp manifest.id
  qtfbSocket := platform.qtfbSocket
  lifecycleFd := answers.childFd
  listenAddr := manifest.runtime.network.listenPort.map (.v4 [0, 0, 0, 0])
  booksDir := if "storage:books-write-v1" ∈ manifest.capabilities then some (Executor.booksPlace platform) else none
  wallpapersDir :=
    if "storage:wallpapers-write-v1" ∈ manifest.capabilities then some (Executor.wallpapersPlace platform) else none
  dataHome := dataHome
  controlSocket := .ofString Executor.defaultSocket

def launchedReading (device : Device.DeviceProfile) (dataHome : PathBuf) (expectedAppId : String) :
    Reading (ManagedEnvironment V6) :=
  if manifest.id.value ≠ expectedAppId then .error (.appMismatch expectedAppId manifest.id.value)
  else if manifest.runtime.profile ≠ .qtfbCompat then .error (.missing "QTFB_KEY")
  else if lifecycleRequested manifest = false then .error (.missing "REMAGIC_LIFECYCLE_FD")
  else .ok (launchedEnvironment manifest platform answers device dataHome)

end Remagic.Runner

namespace Remagic.Sdk
open Runner (PathBuf Variables insert_here)
open NumberText (SocketAddr)

section
variable {vars : Variables}

theorem required_of {name value : String} (found : vars[name]? = some value) : required vars name = .ok value := by
  unfold required
  rw [found]

theorem required_none {name : String} (absent : vars[name]? = none) : required vars name = .error (.missing name) := by
  unfold required
  rw [absent]

theorem parseI32_of {name : String} {n : Nat} (found : vars[name]? = some (toString n)) (fits : n ≤ 0x7fffffff) :
    parseI32 vars name = .ok (n : Int) := by
  unfold parseI32
  rw [required_of found]
  have parsed : NumberText.parseInt (-0x80000000) 0x7fffffff (toString n) = .ok (n : Int) :=
    NumberText.parseInt_toString (by decide) n (by omega)
  show read name _ = _
  rw [parsed]
  rfl

theorem parseI32_none {name : String} (absent : vars[name]? = none) : parseI32 vars name = .error (.missing name) := by
  unfold parseI32
  rw [required_none absent]
  rfl

/-- The key of a surface is a number of 31 bits. -/
theorem qtfbKeyForApp_small (appId : AppId) : Runner.qtfbKeyForApp appId ≤ 0x7fffffff := by
  unfold Runner.qtfbKeyForApp Runner.remagicHomeQtfbKey
  simp only
  split
  · rename_i home
    rw [home]
    decide
  · omega

/-- An application reads the address of its port, where it has one. -/
theorem listenAddr_of {V6 : Type} (readV6 : List Char → Option (V6 × List Char)) {network : Runner.NetworkPolicy}
    (found : vars["REMAGIC_LISTEN_ADDR"]? = some (Runner.listenAddress network))
    (ports : ∀ port, network.listenPort = some port → port < 65536) :
    optionalParse vars (SocketAddr.fromStr readV6) "REMAGIC_LISTEN_ADDR" =
      .ok (network.listenPort.map (.v4 [0, 0, 0, 0])) := by
  unfold optionalParse
  rw [found]
  unfold Runner.listenAddress
  cases given : network.listenPort with
  | none => rfl
  | some port =>
    have filled : s!"0.0.0.0:{port}" ≠ "" := by
      intro empty
      have chars := congrArg String.toList empty
      simp [toString, String.toList_append] at chars
    simp only [Option.map_some, Option.getD_some, Option.filter_some, filled, ne_eq, not_false_eq_true, decide_true, if_true,
      NumberText.fromStr_unspecified readV6 (ports port given)]
    rfl

theorem optionalPath_of {key : String} {declared : Prop} [Decidable declared] {path : PathBuf}
    (places : Runner.Executor.Places vars key declared path) (filled : path ≠ []) :
    optionalPath vars key = if declared then some path else none := by
  unfold optionalPath
  by_cases present : declared
  · obtain ⟨text, found, rfl⟩ := places.2 present
    have shown : text ≠ "" := by
      rintro rfl
      exact filled (by simp [PathBuf.ofString])
    rw [found, if_pos present]
    simp [shown]
  · rw [places.1 present, if_neg present]
    rfl

end

namespace ManagedEnvironment
variable {V6 : Type} {readV6 : List Char → Option (V6 × List Char)} {decode : String → Except String Device.DeviceProfile}
  {manifest : Runner.AppManifest} {platform : Runner.PlatformRuntime} {answers : Runner.LifecycleAnswers}
  {device : Device.DeviceProfile} {plan launched : Runner.ExecutionPlan} {descriptor : Runner.LaunchDescriptor}

/-- A place below the home directory is not the empty path. -/
theorem join_filled (root : PathBuf) {place : PathBuf} (filled : place ≠ []) : root.join place ≠ [] := by
  unfold PathBuf.join
  split
  · exact filled
  · split
    · simp [filled]
    · simp

/-- The application decodes the profile that the runner encoded. -/
theorem device_decoded {encode : Device.DeviceProfile → Except String String} {json : String}
    (serde : ∀ profile text, encode profile = .ok text → decode text = .ok profile)
    (detected : platform.device = device.onPlatform encode) (encoded : platform.device.json = .ok json) :
    device.validate = .ok () ∧ decode json = .ok device := by
  rw [detected] at encoded
  unfold Device.DeviceProfile.onPlatform Device.DeviceProfile.toJson at encoded
  cases valid : device.validate with
  | error error =>
    rw [valid] at encoded
    cases encoded
  | ok _ =>
    refine ⟨rfl, serde device json ?_⟩
    rw [valid] at encoded
    cases given : encode device with
    | error error =>
      simp only [given] at encoded
      cases encoded
    | ok text =>
      simp only [given] at encoded
      cases encoded
      rfl

variable (readV6) in
theorem discover_written {encode : Device.DeviceProfile → Except String String}
    (serde : ∀ profile text, encode profile = .ok text → decode text = .ok profile)
    (detected : platform.device = device.onPlatform encode) (written : Runner.Written manifest platform plan)
    (ports : ∀ port, manifest.runtime.network.listenPort = some port → port < 65536)
    (ok : Runner.prepareLifecycle answers manifest descriptor plan = .ok launched)
    (fits : answers.childFd ≤ 0x7fffffff) (inherited : Variables) (expectedAppId : String) :
    ∃ directories dataHome, manifest.runtime.directories = some directories ∧ dataHome.same directories.dataHome = true ∧
      discover readV6 decode (Runner.applicationVariables inherited launched) expectedAppId =
        Runner.launchedReading manifest platform answers device dataHome expectedAppId := by
  obtain ⟨touches, clears, channel⟩ := Runner.prepareLifecycle_ok ok
  have cleared : Runner.applicationVariables inherited launched = launched.vars := by
    unfold Runner.applicationVariables
    rw [clears, written.clears, if_pos rfl]
  rw [cleared]
  obtain ⟨home, directories, homed, declared, same⟩ := written.dataHome
  refine ⟨directories, .ofString home, declared, same, ?_⟩
  have kept {key : String} (apart : key ∉ ["REMAGIC_LIFECYCLE_FD", "REMAGIC_APP_CONTROL_SOCKET"]) :
      launched.vars[key]? = plan.vars[key]? := touches key apart
  have managed := (kept (by decide)).trans written.managed
  have named := required_of ((kept (by decide)).trans written.appId)
  have identified : AppId.new manifest.id.value = .ok manifest.id := dif_pos manifest.id.valid
  obtain ⟨json, encoded, described⟩ := written.device
  obtain ⟨valid, decoded⟩ := device_decoded serde detected encoded
  have profiled := required_of ((kept (by decide)).trans described)
  have homed' := required_of ((kept (by decide)).trans homed)
  have address := listenAddr_of readV6 ((kept (by decide)).trans written.address) ports
  have socket := required_of ((kept (by decide)).trans written.socket)
  have books := optionalPath_of (written.books.of_same (kept (by decide))) (join_filled platform.homeRoot (by decide +kernel))
  have wallpapers := optionalPath_of (written.wallpapers.of_same (kept (by decide)))
    (join_filled platform.homeRoot (by decide +kernel))
  unfold discover Runner.launchedReading
  simp only [managed, named, profiled, identified, decoded, valid, read, Except.mapError, ne_eq, not_true_eq_false, if_false,
    bind, Except.bind]
  by_cases expected : manifest.id.value = expectedAppId
  case neg =>
    rw [if_pos expected, if_pos expected]
    rfl
  rw [if_neg (not_not.mpr expected), if_neg (not_not.mpr expected)]
  by_cases surface : manifest.runtime.profile = .qtfbCompat
  case neg =>
    rw [if_pos surface, parseI32_none ((kept (by decide)).trans (written.keyless surface))]
  obtain ⟨text, found, path⟩ := written.surface (Runner.qtfbKeyForApp manifest.id) (if_pos surface)
  have key : launched.vars["QTFB_KEY"]? = some (toString (Runner.qtfbKeyForApp manifest.id)) :=
    (kept (by decide)).trans (written.key (Runner.qtfbKeyForApp manifest.id) (if_pos surface))
  rw [if_neg (not_not.mpr surface), parseI32_of key (qtfbKeyForApp_small manifest.id),
    required_of ((kept (by decide)).trans found)]
  by_cases requested : Runner.lifecycleRequested manifest = true
  case neg =>
    rw [if_neg requested, written.channel] at channel
    rw [if_pos (Bool.not_eq_true _ ▸ requested)]
    simp only [parseI32_none channel]
  rw [if_pos requested] at channel
  simp only [requested, Bool.true_eq_false, if_false, parseI32_of channel fits, address, homed', socket, books, wallpapers, path]
  rfl

/-! ## A launch that takes uploads -/

section Upload
open Runner

def uploadFiles : List (String × Metadata) :=
  Executor.weatherFiles ++ ["/run/upload", "/home/.local", "/home/.local/share", "/home/.local/share/remarkable",
      "/home/.local/share/remarkable/xochitl", "/home/.local/share/remagic", "/home/.local/share/remagic/wallpapers"].map
    (fun place => (place, Executor.weatherDirectory)) ++
  [("/opt/upload", { isFile := true, mode := 0o100755, uid := 0, len := 9 }),
    ("/run/qtfb", { isSocket := true, mode := 0o140600, uid := 0, len := 0 })]

def uploadMetadata (path : PathBuf) (_ : Unit) : Except IoFailure Metadata :=
  match uploadFiles.find? fun entry => path.same (.ofString entry.1) with
  | some entry => .ok entry.2
  | none => .error { notFound := true, text := "No such file or directory" }

def uploadSystem : System Unit where
  metadata := uploadMetadata
  symlinkMetadata := uploadMetadata
  createDir _ _ _ := .error { notFound := false, text := "Read-only file system" }
  setPermissions _ path files := Except.map (fun _ => ()) (uploadMetadata path files)
  readDir path files := Except.map (fun _ => ()) (uploadMetadata path files)
  readFirst path files := Except.map (fun _ => ()) (uploadMetadata path files)
  effectiveUid := 0
  processId := 7
  json _ := "\x7b\"app_id\":\"upload\",\"foreground_epoch\":1,\"generation\":1,\"lease_id\":1\x7d"

theorem upload_valid : validId "upload" = true := by decide

def uploadManifest : AppManifest where
  schema := manifestSchemaV2
  id := ⟨"upload", upload_valid⟩
  exec := .ofString "/opt/upload"
  workingDir := .ofString "/opt"
  display := "qtfb"
  capabilities := ["display:qtfb-v1", "lifecycle:v2", "network:listen-v1", "storage:books-write-v1",
    "storage:wallpapers-write-v1"]
  runtime := {
    profile := .qtfbCompat
    network := { mode := .inbound, listenPort := some 8080 }
    directories := some {
      home := .ofString "/home", configHome := .ofString "/home/config", dataHome := .ofString "/home/data",
      stateHome := .ofString "/home/state", cacheHome := .ofString "/home/cache", runtimeDir := .ofString "/run/upload" } }
  environment := ∅
  supportedDevices := []
  supportedOs := []

def uploadDevice : Device.DeviceProfile := .forProduct .paperProMove "3.27.3.0"

def uploadProfile : String :=
  "\x7b\"schema_version\":1,\"product\":\"paper_pro_move\",\"codename\":\"chiappa\",\"os_version\":\"3.27.3.0\"," ++
    "\"display\":\x7b\"logical_width\":954,\"logical_height\":1696,\"qtfb_format\":6,\"pixel_format\":\"rgb565\"," ++
    "\"stride\":1908\x7d,\"capabilities\":[\"color\",\"display:qtfb-v1\",\"display:surface-v2\",\"ink:direct-v1\"," ++
    "\"input:mode-v2\",\"input:pen-v1\",\"input:touch-v1\",\"lifecycle:v2\",\"network:outbound-v1\"," ++
    "\"network:listen-v1\",\"network:lan-peer-v1\",\"storage:books-write-v1\",\"storage:wallpapers-write-v1\"," ++
    "\"sync:koreader-state-v1\",\"agent:pi-v1\"]\x7d"

def uploadEncode (profile : Device.DeviceProfile) : Except String String :=
  if profile = uploadDevice then .ok uploadProfile else .error "another device"

def uploadDecode (text : String) : Except String Device.DeviceProfile :=
  if text = uploadProfile then .ok uploadDevice else .error "another device"

theorem upload_serde (profile : Device.DeviceProfile) (text : String) (encoded : uploadEncode profile = .ok text) :
    uploadDecode text = .ok profile := by
  unfold uploadEncode at encoded
  split at encoded
  · rename_i same
    cases encoded
    rw [same]
    exact if_pos rfl
  · cases encoded

def uploadPlatform : PlatformRuntime where
  device := uploadDevice.onPlatform uploadEncode
  capabilities := uploadDevice.capabilities
  qtfbSocket := .ofString "/run/qtfb"
  agentSocket := .ofString "/run/pi"
  path := "/usr/bin"
  librarySearchDirs := []
  zoneinfoRoot := .ofString "/zone"
  homeRoot := .ofString "/home"
  runtimeRoot := .ofString "/run"
  networkEnforcement := .metadataOnly

def uploadDescriptor : LaunchDescriptor := { generation := some 1, foregroundEpoch := some 1, leaseId := some 1 }

def uploadAnswers : LifecycleAnswers := { childFd := 9 }

def uploadPlanned : Except ExecutorError (ExecutionPlan × Unit) :=
  (Executor.prepareExecution uploadSystem (.ok (Vector.replicate 32 3)) uploadManifest uploadPlatform uploadDescriptor).run ()

theorem upload_passes : (uploadPlanned.toOption.bind fun planned =>
    (prepareLifecycle uploadAnswers uploadManifest uploadDescriptor planned.1).toOption).isSome = true := by decide +kernel

theorem upload_launches : ∃ plan launched, uploadPlanned = .ok (plan, ()) ∧
    prepareLifecycle uploadAnswers uploadManifest uploadDescriptor plan = .ok launched := by
  have ok_of_toOption {ε α : Type} {result : Except ε α} {value : α} (there : result.toOption = some value) :
      result = .ok value := by
    cases result with
    | error error => cases there
    | ok value => exact congrArg Except.ok (Option.some.inj there)
  obtain ⟨launched, passes⟩ := Option.isSome_iff_exists.mp upload_passes
  obtain ⟨planned, ok, launches⟩ := Option.bind_eq_some_iff.mp passes
  exact ⟨planned.1, launched, ok_of_toOption ok, ok_of_toOption launches⟩

end Upload

section Launch
variable {σ : Type} {system : Runner.System σ} {entropy : Except Runner.IoFailure (Vector UInt8 32)} {files after : σ}
  {encode : Device.DeviceProfile → Except String String}

variable (readV6) in
/-- What the application of a launch reads back is what it was launched with. An application
    without a surface, or without the lifecycle channel, is told what is missing. Ports have
    16 bits and descriptors 31. -/
theorem launch_discovered (v2 : manifest.schema = Runner.manifestSchemaV2)
    (planned : (Runner.Executor.prepareExecution system entropy manifest platform descriptor).run files = .ok (plan, after))
    (ok : Runner.prepareLifecycle answers manifest descriptor plan = .ok launched)
    (serde : ∀ profile text, encode profile = .ok text → decode text = .ok profile)
    (detected : platform.device = device.onPlatform encode)
    (ports : ∀ port, manifest.runtime.network.listenPort = some port → port < 65536) (fits : answers.childFd ≤ 0x7fffffff)
    (inherited : Variables) (expectedAppId : String) :
    ∃ directories dataHome, manifest.runtime.directories = some directories ∧ dataHome.same directories.dataHome = true ∧
      discover readV6 decode (Runner.applicationVariables inherited launched) expectedAppId =
        Runner.launchedReading manifest platform answers device dataHome expectedAppId :=
  discover_written readV6 serde detected (Runner.Executor.prepareExecution_written v2 planned).2 ports ok fits inherited
    expectedAppId

/-- The upload application finds its surface, its channel, its port and both places. -/
theorem launch_discovered_upload : ∃ plan launched dataHome, uploadPlanned = .ok (plan, ()) ∧
    Runner.prepareLifecycle uploadAnswers uploadManifest uploadDescriptor plan = .ok launched ∧
    discover (fun _ => (none : Option (Unit × List Char))) uploadDecode (Runner.applicationVariables ∅ launched) "upload" =
      .ok (Runner.launchedEnvironment uploadManifest uploadPlatform uploadAnswers uploadDevice dataHome) := by
  obtain ⟨plan, launched, planned, ok⟩ := upload_launches
  have ports : ∀ port, uploadManifest.runtime.network.listenPort = some port → port < 65536 := by
    rintro port (_ | _)
    decide
  obtain ⟨directories, dataHome, _, _, found⟩ := launch_discovered (fun _ => none) rfl planned ok upload_serde rfl ports
    (by decide) ∅ "upload"
  exact ⟨plan, launched, dataHome, planned, ok, found⟩

/-! ## Contracts -/

theorem listens_iff {network : Runner.NetworkPolicy} (valid : Runner.validateNetworkPolicy network = .ok ()) :
    network.listenPort.isSome = true ↔ network.mode = .inbound ∨ network.mode = .lanPeer := by
  obtain ⟨_, _, valid⟩ := Fallible.ok_of_bind valid
  cases given : network.listenPort with
  | none =>
    simp only [given] at valid
    obtain ⟨_, port, _⟩ := Fallible.ok_of_bind valid
    have silent := Runner.reject_ok port
    exact ⟨nofun, fun listens => absurd listens silent⟩
  | some number =>
    simp only [given] at valid
    split at valid
    · rename_i listens
      exact ⟨fun _ => listens, fun _ => rfl⟩
    · cases valid

theorem requirements_network {requirements : Runner.RuntimeRequirements} {directories : Bool}
    (valid : requirements.validate directories = .ok ()) : Runner.validateNetworkPolicy requirements.network = .ok () := by
  obtain ⟨_, _, valid⟩ := Fallible.ok_of_bind valid
  obtain ⟨_, _, valid⟩ := Fallible.ok_of_bind valid
  obtain ⟨_, _, valid⟩ := Fallible.ok_of_bind valid
  have rest : (do
      Runner.validateTimezone requirements.timezone
      Runner.validateFontPolicy requirements.fonts
      Runner.validateCertificatePolicy requirements.certificates
      Runner.validateNetworkPolicy requirements.network) = .ok () := by
    cases lcAll : requirements.locale.lcAll with
    | none =>
      rw [lcAll] at valid
      exact valid
    | some lcAll' =>
      rw [lcAll] at valid
      obtain ⟨_, _, valid⟩ := Fallible.ok_of_bind valid
      exact valid
  obtain ⟨_, _, rest⟩ := Fallible.ok_of_bind rest
  obtain ⟨_, _, rest⟩ := Fallible.ok_of_bind rest
  obtain ⟨_, _, rest⟩ := Fallible.ok_of_bind rest
  exact rest

/-- A device that is what it says has every capability of its product. -/
theorem validate_capabilities (valid : device.validate = .ok ()) :
    device.capabilities = (Device.DeviceProfile.forProduct device.product device.osVersion).capabilities := by
  unfold Device.DeviceProfile.validate at valid
  simp only at valid
  split at valid
  · cases valid
  · split at valid
    · cases valid
    · split at valid
      · cases valid
      · rename_i same
        exact not_not.mp fun other => same (.inr other)

/-- The launch gave an address and both places. -/
structure Complete (environment : ManagedEnvironment V6) : Prop where
  listens : environment.listenAddr.isSome = true
  books : environment.booksDir.isSome = true
  wallpapers : environment.wallpapersDir.isSome = true

/-- On a device that is what it says, a contract is kept if and only if the launch is complete. -/
theorem requireContract_iff {environment : ManagedEnvironment V6} (valid : environment.device.validate = .ok ())
    {capabilities : List String} (known : ∀ capability ∈ capabilities,
      capability ∈ (Device.DeviceProfile.forProduct .paperPro "").capabilities) (incomplete : ManagedEnvironmentError) :
    environment.requireContract capabilities incomplete = .ok () ↔ environment.Complete := by
  have all : capabilities.find? (fun capability => capability ∉ environment.device.capabilities) = none := by
    refine List.find?_eq_none.mpr fun capability member => ?_
    rw [validate_capabilities valid, decide_eq_true_iff, not_not]
    exact known capability member
  have complete : environment.Complete ↔ ¬ (environment.listenAddr.isNone = true ∨ environment.booksDir.isNone = true ∨
      environment.wallpapersDir.isNone = true) := by
    simp only [not_or, Bool.not_eq_true, Option.isNone_eq_false_iff]
    exact ⟨fun whole => ⟨whole.listens, whole.books, whole.wallpapers⟩, fun all => ⟨all.1, all.2.1, all.2.2⟩⟩
  unfold requireContract
  rw [all, complete]
  show (if _ then _ else _) = _ ↔ _
  split
  · rename_i absent
    exact ⟨nofun, fun whole => absurd absent whole⟩
  · rename_i whole
    exact ⟨fun _ => whole, fun _ => rfl⟩

/-- The application listens, and may write books and wallpapers. -/
structure Sharing (manifest : Runner.AppManifest) : Prop where
  listens : "network:listen-v1" ∈ manifest.capabilities ∨ "network:lan-peer-v1" ∈ manifest.capabilities
  books : "storage:books-write-v1" ∈ manifest.capabilities
  wallpapers : "storage:wallpapers-write-v1" ∈ manifest.capabilities

theorem launchedEnvironment_complete (preflighted : Runner.Executor.Preflighted manifest) (dataHome : PathBuf) :
    (Runner.launchedEnvironment manifest platform answers device dataHome : ManagedEnvironment V6).Complete ↔
      Sharing manifest := by
  have listens := (listens_iff (requirements_network preflighted.valid)).trans preflighted.listens
  have place {declared : Prop} [Decidable declared] (path : PathBuf) :
      (if declared then some path else none).isSome = true ↔ declared := by
    split <;> simp [*]
  constructor
  · rintro ⟨address, books, wallpapers⟩
    exact ⟨listens.mp ((Option.isSome_map ..).symm.trans address), (place _).mp books, (place _).mp wallpapers⟩
  · rintro ⟨declared, books, wallpapers⟩
    exact ⟨(Option.isSome_map ..).trans (listens.mpr declared), (place _).mpr books, (place _).mpr wallpapers⟩

/-- The contracts of uploads and of transfers are kept by the same launches: those of the
    applications that listen and may write books and wallpapers. -/
theorem launch_contracts (v2 : manifest.schema = Runner.manifestSchemaV2)
    (planned : (Runner.Executor.prepareExecution system entropy manifest platform descriptor).run files = .ok (plan, after))
    (ok : Runner.prepareLifecycle answers manifest descriptor plan = .ok launched)
    (serde : ∀ profile text, encode profile = .ok text → decode text = .ok profile)
    (detected : platform.device = device.onPlatform encode)
    (ports : ∀ port, manifest.runtime.network.listenPort = some port → port < 65536) (fits : answers.childFd ≤ 0x7fffffff)
    {inherited : Variables} {expectedAppId : String} {environment : ManagedEnvironment V6}
    (found : discover readV6 decode (Runner.applicationVariables inherited launched) expectedAppId = .ok environment) :
    (environment.requireUploadContract = .ok () ↔ Sharing manifest) ∧
      (environment.requireTransferContract = .ok () ↔ Sharing manifest) := by
  obtain ⟨preflighted, written⟩ := Runner.Executor.prepareExecution_written v2 planned
  obtain ⟨json, encoded, _⟩ := written.device
  obtain ⟨valid, _⟩ := device_decoded serde detected encoded
  obtain ⟨directories, dataHome, _, _, reads⟩ := discover_written readV6 serde detected written ports ok fits inherited
    expectedAppId
  rw [found] at reads
  have same : environment = Runner.launchedEnvironment manifest platform answers device dataHome := by
    unfold Runner.launchedReading at reads
    split at reads
    · cases reads
    · split at reads
      · cases reads
      · split at reads
        · cases reads
        · exact Except.ok.inj reads
  subst same
  exact ⟨(requireContract_iff valid (by decide) _).trans (launchedEnvironment_complete preflighted dataHome),
    (requireContract_iff valid (by decide) _).trans (launchedEnvironment_complete preflighted dataHome)⟩

/-- The environment that the upload application reads back keeps the contract of uploads, and that
    of transfers too. -/
theorem launch_contracts_upload : ∃ plan launched environment, uploadPlanned = .ok (plan, ()) ∧
    Runner.prepareLifecycle uploadAnswers uploadManifest uploadDescriptor plan = .ok launched ∧
    discover (fun _ => (none : Option (Unit × List Char))) uploadDecode (Runner.applicationVariables ∅ launched) "upload" =
      .ok environment ∧ environment.requireUploadContract = .ok () ∧ environment.requireTransferContract = .ok () := by
  obtain ⟨plan, launched, planned, ok⟩ := upload_launches
  have ports : ∀ port, uploadManifest.runtime.network.listenPort = some port → port < 65536 := by
    rintro port (_ | _)
    decide
  obtain ⟨_, written⟩ := Runner.Executor.prepareExecution_written rfl planned
  obtain ⟨directories, dataHome, _, _, found⟩ := discover_written (fun _ => (none : Option (Unit × List Char))) upload_serde
    rfl written ports ok (by decide) ∅ "upload"
  obtain ⟨upload, transfer⟩ := launch_contracts rfl planned ok upload_serde rfl ports (by decide) found
  have sharing : Sharing uploadManifest := ⟨by decide, by decide, by decide⟩
  exact ⟨plan, launched, _, planned, ok, found, upload.mpr sharing, transfer.mpr sharing⟩

end Launch

end ManagedEnvironment
end Remagic.Sdk
