import Mathlib.Data.List.DropRight
import Remagic.AppIds

/-!
# The runtime policy of an application

What a manifest requires of the platform, and when the platform takes it to be
coherent. A path is the bytes that the system knows it by.
-/

namespace Remagic.Runner

/-- `if condition { return Err(error) }`. -/
def reject {ε : Type} (condition : Prop) [Decidable condition] (error : ε) : Except ε Unit :=
  if condition then .error error else .ok ()

/-! ## Paths -/

abbrev PathBuf := List UInt8

namespace PathBuf

def slash : UInt8 := 47
def dot : UInt8 := 46
def colon : UInt8 := 58

def ofString (text : String) : PathBuf := text.toUTF8.toList

/-- `to_str`. -/
def text? (path : PathBuf) : Option String := String.fromUTF8? ⟨path.toArray⟩

/-- A byte that may follow the first one of a character. -/
def follows (first second : UInt8) : Bool :=
  if first = 0xe0 then 0xa0 ≤ second ∧ second ≤ 0xbf
  else if first = 0xed then 0x80 ≤ second ∧ second ≤ 0x9f
  else if first = 0xf0 then 0x90 ≤ second ∧ second ≤ 0xbf
  else if first = 0xf4 then 0x80 ≤ second ∧ second ≤ 0x8f
  else 0xc2 ≤ first ∧ first ≤ 0xf3 ∧ 0x80 ≤ second ∧ second ≤ 0xbf

/-- How many bytes are replaced where no character begins: as many as could still
    begin one. -/
def brokenLength : List UInt8 → Nat
  | first :: second :: third :: _ =>
    if ¬ follows first second ∨ first < 0xe0 then 1
    else if 0xf0 ≤ first ∧ 0x80 ≤ third ∧ third ≤ 0xbf then 3
    else 2
  | [first, second] => if ¬ follows first second ∨ first < 0xe0 then 1 else 2
  | _ => 1

def firstChar (bytes : List UInt8) : Option (Char × List UInt8) :=
  [1, 2, 3, 4].findSome? fun length =>
    match (text? (bytes.take length)).map String.toList with
    | some [character] => some (character, bytes.drop length)
    | _ => none

/-- The text with the replacement character for what is no text. -/
def lossy : Nat → List UInt8 → List Char
  | 0, _ => []
  | _, [] => []
  | fuel + 1, bytes =>
    match firstChar bytes with
    | some (character, rest) => character :: lossy fuel rest
    | none => '\uFFFD' :: lossy fuel (bytes.drop (brokenLength bytes))

variable (path : PathBuf)

def display : String := (text? path).getD (String.ofList (lossy path.length path))

def isAbsolute : Bool := path.head? = some slash

/-- Repeated slashes and inner dots do not count. -/
def components : List PathBuf :=
  match path.splitOn slash with
  | [] => []
  | first :: rest => [first].filter (· ≠ []) ++ rest.filter fun name => name ≠ [] ∧ name ≠ [dot]

/-- `==`. -/
def same (other : PathBuf) : Bool := path.isAbsolute = other.isAbsolute ∧ path.components = other.components

def startsWith (base : PathBuf) : Bool :=
  path.isAbsolute = base.isAbsolute ∧ base.components <+: path.components

def climbs : Bool := path.components.any fun name => name = [dot, dot] ∨ name = [dot]

def fileName : Option PathBuf := path.components.getLast?.filter fun name => name ≠ [dot, dot] ∧ name ≠ [dot]

/-- The segments without the empty ones and the dots at the end. -/
def trimmed : List PathBuf → List PathBuf
  | [] => []
  | first :: rest => first :: rest.rdropWhile fun name => name = [] ∨ name = [dot]

def parent : Option PathBuf :=
  match trimmed (path.splitOn slash) with
  | [] => none
  | [first] => if first = [] then none else some []
  | names =>
    let kept := trimmed names.dropLast
    some (if kept = [[]] then [slash] else [slash].intercalate kept)

def join (other : PathBuf) : PathBuf :=
  if other.isAbsolute then other
  else if path = [] ∨ path.getLast? = some slash then path ++ other
  else path ++ slash :: other

/-- `env::join_paths`. -/
def joinPaths (paths : List PathBuf) : Except String PathBuf :=
  if paths.any (·.contains colon) then .error "path segment contains separator `:`"
  else .ok ([colon].intercalate paths)

/-- The paths that no earlier one equals. -/
def distinct (paths : List PathBuf) : List PathBuf :=
  paths.foldl (fun kept path => if kept.any path.same then kept else kept ++ [path]) []

end PathBuf

/-! ## Errors -/

inductive RuntimeValidationError where
  | missingDirectories
  | unsafePath (field : String) (path : PathBuf)
  | invalidLibrary (library : String)
  | duplicateLibrary (library : String)
  | duplicatePath (field : String) (path : PathBuf)
  | directoryOutsideHome (field : String) (path home : PathBuf)
  | persistentRuntimeDirectory (path : PathBuf)
  | invalidPolicyValue (field value : String)
  | missingCertificateSource
  | hostsWithDeniedNetwork
  | missingListenPort
  | unexpectedListenPort (port : Nat)
  | requiredNetworkEnforcementUnavailable
  | invalidHost (host : String)
  | invalidPathList (reason : String)
  | invalidEnvironment (key : String)
  | reservedApplicationEnvironment (key : String)
  | unresolvedLibrary (library : String)
  | missingLaunchVariable (key : String)
  | mismatchedLaunchVariable (key : String) (expected : PathBuf) (actual : String)
  | policyVariableMismatch (key : String)
deriving DecidableEq

def RuntimeValidationError.text : RuntimeValidationError → String
  | .missingDirectories => "runtime directories are required"
  | .unsafePath field path => s!"unsafe {field} path: {path.display}"
  | .invalidLibrary library => s!"invalid required library: {library}"
  | .duplicateLibrary library => s!"duplicate required library: {library}"
  | .duplicatePath field path => s!"duplicate {field} path: {path.display}"
  | .directoryOutsideHome field path home =>
    s!"{field} path {path.display} must be a strict descendant of HOME {home.display}"
  | .persistentRuntimeDirectory path => s!"XDG_RUNTIME_DIR must be ephemeral and outside HOME: {path.display}"
  | .invalidPolicyValue field value => s!"invalid {field} value: {value}"
  | .missingCertificateSource => "a required certificate policy has no CA bundle or directory"
  | .hostsWithDeniedNetwork => "network hosts cannot be declared when network mode is deny, inbound, or lan_peer"
  | .missingListenPort => "inbound and lan_peer network modes require a non-privileged listen_port"
  | .unexpectedListenPort port => s!"listen_port {port} is only valid for inbound or lan_peer network mode"
  | .requiredNetworkEnforcementUnavailable =>
    "network policy requires OS enforcement, but only policy metadata is available"
  | .invalidHost host => s!"invalid allowed network host: {host}"
  | .invalidPathList reason => s!"runtime path list cannot be represented in the process environment: {reason}"
  | .invalidEnvironment key => s!"invalid environment variable: {key}"
  | .reservedApplicationEnvironment key => s!"application environment may not override platform variable {key}"
  | .unresolvedLibrary library => s!"required library was not resolved: {library}"
  | .missingLaunchVariable key => s!"launch environment is missing {key}"
  | .mismatchedLaunchVariable key expected actual => s!"launch variable {key} must be {expected.display}, got {actual}"
  | .policyVariableMismatch key => s!"launch variable {key} disagrees with its policy"

abbrev Checked := Except RuntimeValidationError

/-! ## Policies -/

inductive RuntimeProfile where
  | nativeV2 | qtfbCompat | headless
deriving DecidableEq

def RuntimeProfile.asStr : RuntimeProfile → String
  | .nativeV2 => "native_v2"
  | .qtfbCompat => "qtfb_compat"
  | .headless => "headless"

inductive NetworkMode where
  | deny | httpsOnly | outbound | inbound | lanPeer
deriving DecidableEq

def NetworkMode.asStr : NetworkMode → String
  | .deny => "deny"
  | .httpsOnly => "https_only"
  | .outbound => "outbound"
  | .inbound => "inbound"
  | .lanPeer => "lan_peer"

inductive NetworkEnforcement where
  | metadataOnly | enforced
deriving DecidableEq

def NetworkEnforcement.asStr : NetworkEnforcement → String
  | .metadataOnly => "metadata_only"
  | .enforced => "enforced"

def NetworkEnforcement.isEnforced (enforcement : NetworkEnforcement) : Bool := enforcement = .enforced

structure RuntimeDirectories where
  home : PathBuf
  configHome : PathBuf
  dataHome : PathBuf
  stateHome : PathBuf
  cacheHome : PathBuf
  runtimeDir : PathBuf

structure LocalePolicy where
  lang : String := "C.UTF-8"
  lcAll : Option String := none

structure FontPolicy where
  directories : List PathBuf := []
  fontconfigFile : Option PathBuf := none

structure CertificatePolicy where
  required : Bool := false
  caBundle : Option PathBuf := none
  caDirectory : Option PathBuf := none

/-- `allowedHosts` stands in order. -/
structure NetworkPolicy where
  mode : NetworkMode := .deny
  allowedHosts : List String := []
  listenPort : Option Nat := none
  requireEnforcement : Bool := false

structure RuntimeRequirements where
  profile : RuntimeProfile := .nativeV2
  requiredLibraries : List String := []
  directories : Option RuntimeDirectories := none
  locale : LocalePolicy := {}
  timezone : String := "UTC"
  fonts : FontPolicy := {}
  certificates : CertificatePolicy := {}
  network : NetworkPolicy := {}

/-! ## Their checks -/

def validateAbsolute (field : String) (value : PathBuf) : Checked Unit :=
  reject (¬ value.isAbsolute ∨ value.climbs) (.unsafePath field value)

/-- The first of the paths that equals an earlier one is refused. -/
def refuseDuplicates : List PathBuf → List (String × PathBuf) → Checked Unit
  | _, [] => .ok ()
  | seen, (field, value) :: rest =>
    if seen.any value.same then .error (.duplicatePath field value) else refuseDuplicates (value :: seen) rest

def RuntimeDirectories.validate (directories : RuntimeDirectories) : Checked Unit := do
  let paths := [("home", directories.home), ("config_home", directories.configHome), ("data_home", directories.dataHome),
    ("state_home", directories.stateHome), ("cache_home", directories.cacheHome), ("runtime_dir", directories.runtimeDir)]
  for (field, value) in paths do
    validateAbsolute field value
    reject (value.same (.ofString "/")) (.unsafePath field value)
  refuseDuplicates [] paths
  for (field, value) in [("config_home", directories.configHome), ("data_home", directories.dataHome),
      ("state_home", directories.stateHome), ("cache_home", directories.cacheHome)] do
    reject (value.same directories.home ∨ ¬ value.startsWith directories.home)
      (.directoryOutsideHome field value directories.home)
  reject (directories.runtimeDir.startsWith directories.home) (.persistentRuntimeDirectory directories.runtimeDir)

def validateDirectories (directories : Option RuntimeDirectories) (required : Bool) : Checked Unit :=
  match directories with
  | some directories => directories.validate
  | none => reject required .missingDirectories

def isAsciiAlphanumeric (c : Char) : Bool := c.isLower || c.isUpper || c.isDigit

def validateLibraries : List String → List String → Checked Unit
  | _, [] => .ok ()
  | seen, library :: rest => do
    reject (library = "" ∨ library.utf8ByteSize > 128 ∨
      ¬ library.toList.all fun c => isAsciiAlphanumeric c || ['.', '_', '+', '-'].contains c) (.invalidLibrary library)
    reject (library ∈ seen) (.duplicateLibrary library)
    validateLibraries (library :: seen) rest

def validateLocale (field value : String) : Checked Unit :=
  reject (value = "" ∨ value.utf8ByteSize > 64 ∨
    ¬ value.toList.all fun c => isAsciiAlphanumeric c || ['.', '_', '-', '@'].contains c) (.invalidPolicyValue field value)

def validateTimezone (value : String) : Checked Unit :=
  reject (value = "" ∨ value.utf8ByteSize > 128 ∨ value.toList.head? = some '/' ∨ value.toList.tails.any ['.', '.'].isPrefixOf ∨
    ¬ value.toList.all fun c => isAsciiAlphanumeric c || ['/', '_', '-', '+'].contains c)
    (.invalidPolicyValue "timezone.name" value)

def validateFontDirectories : List PathBuf → List PathBuf → Checked Unit
  | _, [] => .ok ()
  | seen, directory :: rest => do
    validateAbsolute "fonts.directories" directory
    reject (seen.any directory.same) (.duplicatePath "fonts.directories" directory)
    validateFontDirectories (directory :: seen) rest

def validateFontPolicy (fonts : FontPolicy) : Checked Unit := do
  validateFontDirectories [] fonts.directories
  match fonts.fontconfigFile with
  | some file => validateAbsolute "fonts.fontconfig_file" file
  | none => pure ()

def validateCertificatePolicy (certificates : CertificatePolicy) : Checked Unit := do
  match certificates.caBundle with
  | some bundle => validateAbsolute "certificates.ca_bundle" bundle
  | none => pure ()
  match certificates.caDirectory with
  | some directory => validateAbsolute "certificates.ca_directory" directory
  | none => pure ()
  reject (certificates.required ∧ certificates.caBundle.isNone ∧ certificates.caDirectory.isNone) .missingCertificateSource

def validateHost (host : String) : Checked Unit :=
  let bare := if ['*', '.'].isPrefixOf host.toList then host.toList.drop 2 else host.toList
  let valid := bare ≠ [] ∧ (String.ofList bare).utf8ByteSize ≤ 253 ∧ (bare.splitOn '.').all fun label =>
    label ≠ [] ∧ (String.ofList label).utf8ByteSize ≤ 63 ∧ label.head? ≠ some '-' ∧ label.getLast? ≠ some '-' ∧
      label.all fun c => isAsciiAlphanumeric c || c == '-'
  reject (¬ valid) (.invalidHost (String.ofList bare))

def validateNetworkPolicy (network : NetworkPolicy) : Checked Unit := do
  let listens := network.mode = .inbound ∨ network.mode = .lanPeer
  reject ((network.mode = .deny ∨ listens) ∧ network.allowedHosts ≠ []) .hostsWithDeniedNetwork
  match network.listenPort with
  | some port =>
    if listens then reject (port < 1024) .missingListenPort else .error (.unexpectedListenPort port)
  | none => reject listens .missingListenPort
  for host in network.allowedHosts do
    validateHost host

def RuntimeRequirements.validate (requirements : RuntimeRequirements) (requireDirectories : Bool) : Checked Unit := do
  validateDirectories requirements.directories requireDirectories
  validateLibraries [] requirements.requiredLibraries
  validateLocale "locale.lang" requirements.locale.lang
  match requirements.locale.lcAll with
  | some lcAll => validateLocale "locale.lc_all" lcAll
  | none => pure ()
  validateTimezone requirements.timezone
  validateFontPolicy requirements.fonts
  validateCertificatePolicy requirements.certificates
  validateNetworkPolicy requirements.network

/-- `encode_path_list`. -/
def encodePathList (paths : List PathBuf) : Checked String := do
  match PathBuf.joinPaths paths with
  | .error reason => .error (.invalidPathList reason)
  | .ok joined =>
    match joined.text? with
    | none => .error (.invalidPathList "path is not UTF-8")
    | some text => .ok text

/-! ## The key of a surface -/

def remagicHomeQtfbKey : Nat := 245209900

/-- FNV-1a over the identifier, as a positive number of 31 bits. -/
def qtfbKeyForApp (appId : AppId) : Nat :=
  let hash := ("remagic-qtfb-v2:".toUTF8.toList ++ appId.value.toUTF8.toList).foldl
    (fun (hash : UInt32) byte => (hash ^^^ byte.toUInt32) * 0x01000193) 0x811c9dc5
  let key := max (hash.toNat % 0x80000000) 1
  if key = remagicHomeQtfbKey then key + 1 else key

end Remagic.Runner
