import Mathlib.Data.List.Sort
import Remagic.Bundles
import Remagic.RuntimePolicy

/-!
# The environment of a launch

The variables that the platform resolves for an application, over those that
the application's manifest asks for, and the checks that the platform makes of
the whole.
-/

namespace Remagic.Runner

/-- The variables of a process, in the order of their names. -/
abbrev Variables := Std.ExtTreeMap String String compare

def Variables.insertAll (vars : Variables) (pairs : List (String × String)) : Variables :=
  pairs.foldl (fun vars (key, value) => vars.insert key value) vars

def hasPrefix (start key : String) : Bool := start.toList.isPrefixOf key.toList

def isPlatformReservedEnvironment (key : String) : Bool :=
  key = "PATH" ∨ key = "HOME" ∨ key = "LANG" ∨ key = "LC_ALL" ∨ key = "TZ" ∨ key = "LD_LIBRARY_PATH" ∨
    key = "SSL_CERT_FILE" ∨ key = "SSL_CERT_DIR" ∨ key = "FONTCONFIG_FILE" ∨ key = "QT_QPA_PLATFORM" ∨
    key = "QT_QPA_FONTDIR" ∨ key = "QTFB_KEY" ∨ hasPrefix "XDG_" key ∨ hasPrefix "REMAGIC_" key

def validateEnvironmentPair (key value : String) : Checked Unit :=
  let validKey : Bool := match key.toList with
    | [] => false
    | first :: rest => (first.isUpper || first == '_') && rest.all fun c => c.isUpper || c.isDigit || c == '_'
  reject (validKey = false ∨ key.utf8ByteSize > 128 ∨ value.toList.contains '\x00' = true) (.invalidEnvironment key)

/-- `json` is what `to_json` makes of the profile. -/
structure DeviceProfile extends Package.DeviceProfile where
  json : Except String String

def deviceProfileEnv : String := "REMAGIC_DEVICE_PROFILE"

structure LaunchEnvironment where
  appId : AppId
  device : DeviceProfile
  profile : RuntimeProfile
  directories : RuntimeDirectories
  vars : Variables
  resolvedLibraries : List PathBuf
  platformCapabilities : List String
  locale : LocalePolicy
  timezone : String
  fonts : FontPolicy
  certificates : CertificatePolicy
  network : NetworkPolicy

def DeviceProfile.encoded (device : DeviceProfile) : Checked String :=
  match device.json with
  | .ok json => .ok json
  | .error error => .error (.invalidPolicyValue deviceProfileEnv error)

/-! ## Its checks -/

namespace Variables
variable (vars : Variables)

def required (key : String) : Checked String :=
  match vars[key]? with
  | some value => .ok value
  | none => .error (.missingLaunchVariable key)

def validateExact (key expected : String) : Checked Unit := do
  let actual ← vars.required key
  reject (actual ≠ expected) (.policyVariableMismatch key)

def validateOptional (key : String) (expected : Option String) : Checked Unit :=
  reject (vars[key]? ≠ expected) (.policyVariableMismatch key)

def validatePlatformPath : Checked Unit := do
  let path ← vars.required "PATH"
  let entries := path.toList.splitOn ':'
  reject (path = "" ∨ entries.any fun entry =>
    let entry := PathBuf.ofString (String.ofList entry)
    ¬ entry.isAbsolute ∨ entry.components.contains [PathBuf.dot, PathBuf.dot]) (.invalidPolicyValue "PATH" path)

end Variables

def joinHosts (hosts : List String) : String := String.intercalate "," hosts

def listenPortText (network : NetworkPolicy) : String := (network.listenPort.map toString).getD ""

def listenAddress (network : NetworkPolicy) : String := (network.listenPort.map fun port => s!"0.0.0.0:{port}").getD ""

namespace LaunchEnvironment
variable (environment : LaunchEnvironment)

def validateDirectoryVariables : Checked Unit := do
  let directories := environment.directories
  for (key, expected) in [("HOME", directories.home), ("XDG_CONFIG_HOME", directories.configHome),
      ("XDG_DATA_HOME", directories.dataHome), ("XDG_STATE_HOME", directories.stateHome),
      ("XDG_CACHE_HOME", directories.cacheHome), ("XDG_RUNTIME_DIR", directories.runtimeDir)] do
    let actual ← environment.vars.required key
    reject (¬ (PathBuf.ofString actual).same expected) (.mismatchedLaunchVariable key expected actual)

def validateNetworkVariables : Checked Unit := do
  let network := environment.network
  environment.vars.validateExact "REMAGIC_NETWORK_POLICY_MODE" network.mode.asStr
  environment.vars.validateExact "REMAGIC_NETWORK_ALLOWED_HOSTS" (joinHosts network.allowedHosts)
  environment.vars.validateExact "REMAGIC_NETWORK_LISTEN_PORT" (listenPortText network)
  environment.vars.validateExact "REMAGIC_LISTEN_ADDR" (listenAddress network)
  let enforcement ← environment.vars.required "REMAGIC_NETWORK_POLICY_ENFORCEMENT"
  let isolated ← environment.vars.required "REMAGIC_NETWORK_ISOLATED"
  let enforced ← (if enforcement = "metadata_only" ∧ isolated = "0" then .ok false
    else if enforcement = "enforced" ∧ isolated = "1" then .ok true
    else .error (.policyVariableMismatch "REMAGIC_NETWORK_POLICY_ENFORCEMENT") : Checked Bool)
  reject (network.requireEnforcement ∧ ¬ enforced) .requiredNetworkEnforcementUnavailable

def validateIdentityVariables : Checked Unit := do
  environment.vars.validateExact "REMAGIC_APP_ID" environment.appId.value
  environment.vars.validateExact "REMAGIC_RUNTIME_PROFILE" environment.profile.asStr
  let device ← environment.device.encoded
  environment.vars.validateExact deviceProfileEnv device
  environment.vars.validatePlatformPath
  let qtfbKey := environment.vars["QTFB_KEY"]?
  match environment.profile with
  | .qtfbCompat =>
    reject (qtfbKey.any fun actual => actual ≠ toString (qtfbKeyForApp environment.appId)) (.policyVariableMismatch "QTFB_KEY")
  | .nativeV2 | .headless => reject qtfbKey.isSome (.policyVariableMismatch "QTFB_KEY")

def validateLocaleVariables : Checked Unit := do
  environment.vars.validateExact "LANG" environment.locale.lang
  environment.vars.validateExact "TZ" environment.timezone
  environment.vars.validateOptional "LC_ALL" environment.locale.lcAll

def validateFontVariables : Checked Unit := do
  environment.vars.validateOptional "FONTCONFIG_FILE" (environment.fonts.fontconfigFile.map PathBuf.display)
  let directories ← (if environment.fonts.directories = [] then .ok none
    else some <$> encodePathList environment.fonts.directories : Checked (Option String))
  for key in ["QT_QPA_FONTDIR", "REMAGIC_FONT_DIRECTORIES"] do
    environment.vars.validateOptional key directories

def validateCertificateVariables : Checked Unit := do
  environment.vars.validateOptional "SSL_CERT_FILE" (environment.certificates.caBundle.map PathBuf.display)
  environment.vars.validateOptional "SSL_CERT_DIR" (environment.certificates.caDirectory.map PathBuf.display)

def validateLibraryPaths : List PathBuf → List PathBuf → Checked Unit
  | _, [] => .ok ()
  | seen, library :: rest => do
    validateAbsolute "resolved_libraries" library
    reject (seen.any library.same) (.duplicatePath "resolved_libraries" library)
    validateLibraryPaths (library :: seen) rest

/-- What the environment holds of its application's requirements. -/
def requirements : RuntimeRequirements where
  profile := environment.profile
  requiredLibraries := []
  directories := some environment.directories
  locale := environment.locale
  timezone := environment.timezone
  fonts := environment.fonts
  certificates := environment.certificates
  network := environment.network

def validate : Checked Unit := do
  environment.directories.validate
  for (key, value) in environment.vars.toList do
    validateEnvironmentPair key value
  environment.validateDirectoryVariables
  environment.validateNetworkVariables
  environment.validateIdentityVariables
  environment.validateLocaleVariables
  environment.validateFontVariables
  environment.validateCertificateVariables
  validateLibraryPaths [] environment.resolvedLibraries
  environment.requirements.validate true

end LaunchEnvironment

/-! ## Its resolution -/

def validateApplicationEnvironment (applicationEnvironment : Variables) : Checked Unit := do
  for (key, value) in applicationEnvironment.toList do
    validateEnvironmentPair key value
    reject (isPlatformReservedEnvironment key) (.reservedApplicationEnvironment key)

def validateRequiredLibraries (requirements : RuntimeRequirements) (resolvedLibraries : List PathBuf) : Checked Unit := do
  for required in requirements.requiredLibraries do
    reject (¬ resolvedLibraries.any fun path => path.fileName = some (PathBuf.ofString required)) (.unresolvedLibrary required)

def baseVariables (appId : AppId) (requirements : RuntimeRequirements) (directories : RuntimeDirectories)
    (applicationEnvironment : Variables) (platformPath : String) : Variables :=
  let vars := applicationEnvironment.insertAll [("HOME", directories.home.display),
    ("XDG_CONFIG_HOME", directories.configHome.display), ("XDG_DATA_HOME", directories.dataHome.display),
    ("XDG_STATE_HOME", directories.stateHome.display), ("XDG_CACHE_HOME", directories.cacheHome.display),
    ("XDG_RUNTIME_DIR", directories.runtimeDir.display)]
  let vars := vars.insert "LANG" requirements.locale.lang
  let vars := vars.insert "TZ" requirements.timezone
  let vars := vars.insert "PATH" platformPath
  let vars := vars.insert "REMAGIC_APP_ID" appId.value
  vars.insert "REMAGIC_RUNTIME_PROFILE" requirements.profile.asStr

def insertNetworkVariables (vars : Variables) (requirements : RuntimeRequirements)
    (networkEnforcement : NetworkEnforcement) : Checked Variables := do
  let network := requirements.network
  reject (network.requireEnforcement ∧ ¬ networkEnforcement.isEnforced) .requiredNetworkEnforcementUnavailable
  pure (vars.insertAll [("REMAGIC_NETWORK_POLICY_MODE", network.mode.asStr),
    ("REMAGIC_NETWORK_POLICY_ENFORCEMENT", networkEnforcement.asStr),
    ("REMAGIC_NETWORK_ISOLATED", if networkEnforcement.isEnforced then "1" else "0"),
    ("REMAGIC_NETWORK_ALLOWED_HOSTS", joinHosts network.allowedHosts),
    ("REMAGIC_NETWORK_LISTEN_PORT", listenPortText network), ("REMAGIC_LISTEN_ADDR", listenAddress network)])

def insertSome (vars : Variables) (key : String) : Option String → Variables
  | some value => vars.insert key value
  | none => vars

def insertOptionalPolicyVariables (vars : Variables) (requirements : RuntimeRequirements) : Checked Variables := do
  let vars := insertSome vars "LC_ALL" requirements.locale.lcAll
  let vars := insertSome vars "FONTCONFIG_FILE" (requirements.fonts.fontconfigFile.map PathBuf.display)
  let vars ← (if requirements.fonts.directories = [] then pure vars
    else do
      let fontDirectories ← encodePathList requirements.fonts.directories
      let vars := vars.insert "QT_QPA_FONTDIR" fontDirectories
      pure (vars.insert "REMAGIC_FONT_DIRECTORIES" fontDirectories) : Checked Variables)
  let vars := insertSome vars "SSL_CERT_FILE" (requirements.certificates.caBundle.map PathBuf.display)
  pure (insertSome vars "SSL_CERT_DIR" (requirements.certificates.caDirectory.map PathBuf.display))

/-- The order of a `BTreeSet<PathBuf>`. -/
def sortPaths (paths : List PathBuf) : List PathBuf :=
  (PathBuf.distinct paths).insertionSort fun left right => left.components ≤ right.components

def insertLoaderVariables (vars : Variables) (appId : AppId) (requirements : RuntimeRequirements)
    (resolvedLibraries : List PathBuf) : Variables :=
  let vars := if requirements.profile = .qtfbCompat then vars.insert "QTFB_KEY" (toString (qtfbKeyForApp appId))
    else vars
  let libraryDirectories := sortPaths (resolvedLibraries.filterMap PathBuf.parent)
  if libraryDirectories = [] then vars
  else vars.insert "LD_LIBRARY_PATH" (String.intercalate ":" (libraryDirectories.map PathBuf.display))

def LaunchEnvironment.resolve (appId : AppId) (requirements : RuntimeRequirements) (applicationEnvironment : Variables)
    (resolvedLibraries : List PathBuf) (platformCapabilities : List String) (platformPath : String)
    (networkEnforcement : NetworkEnforcement) (device : DeviceProfile) : Checked LaunchEnvironment := do
  requirements.validate true
  match requirements.directories with
  | none => .error .missingDirectories
  | some directories =>
    validateApplicationEnvironment applicationEnvironment
    validateRequiredLibraries requirements resolvedLibraries
    let vars := baseVariables appId requirements directories applicationEnvironment platformPath
    let profile ← device.encoded
    let vars := vars.insert deviceProfileEnv profile
    let vars ← insertNetworkVariables vars requirements networkEnforcement
    let vars ← insertOptionalPolicyVariables vars requirements
    let vars := insertLoaderVariables vars appId requirements resolvedLibraries
    let environment : LaunchEnvironment := {
      appId, device, profile := requirements.profile, directories, vars, resolvedLibraries, platformCapabilities,
      locale := requirements.locale, timezone := requirements.timezone, fonts := requirements.fonts,
      certificates := requirements.certificates, network := requirements.network }
    environment.validate
    pure environment

end Remagic.Runner
