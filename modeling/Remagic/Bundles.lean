import Mathlib.Data.List.AList
import Mathlib.Data.List.Sort
import Remagic.AppIds

/-!
# Application bundles

What a bundle says of itself, and the checks that it passes before anything of it
is installed: the inventory of its files, the digest that names its content, and
its manifest's contract with the device. A file's content is whatever the given
formats read it as.
-/

namespace Remagic.Package

inductive AppKind where
  | user
  | system
  deriving DecidableEq

inductive DeviceProduct where
  | paperPro
  | paperProMove
  deriving DecidableEq

def DeviceProduct.name : DeviceProduct → String
  | .paperPro => "PaperPro"
  | .paperProMove => "PaperProMove"

structure DeviceProfile where
  product : DeviceProduct
  osVersion : String
  deriving DecidableEq

/-- The components of an absolute path. -/
abbrev Path := List String

def Path.display (path : Path) : String := "/" ++ String.intercalate "/" path

structure RuntimeDirectories where
  configHome : Path
  dataHome : Path
  stateHome : Path
  cacheHome : Path
  deriving DecidableEq

structure AppManifest where
  id : AppId
  kind : AppKind := .user
  version : String := ""
  package : Option String := none
  supportedDevices : List DeviceProduct := []
  supportedOs : List String := []
  requiredRemagicApi : Nat := 1
  exec : Path
  workingDir : Path
  directories : Option RuntimeDirectories := none
  deriving DecidableEq

def remagicAppApiVersion : Nat := 6

structure BundleFileV1 where
  path : String
  sha256 : String
  size : Nat
  /-- Four-digit octal mode, for example `0644` or `0755`. -/
  mode : String
  deriving DecidableEq

structure BundleV1 where
  schema : Nat := 1
  appId : String
  package : String
  version : String
  contentId : String
  manifestPath : String := "manifest.toml"
  payloadSha256 : String
  files : List BundleFileV1
  deriving DecidableEq

/-- The name of a release: the digest of its content. -/
abbrev ContentId := String

/-- A file or link that the manager reads or writes. -/
inductive Place where
  | manifest (app : AppId)
  | state (app : AppId)
  | stateRoot
  | journal (app : String)
  | current (app : AppId)
  | appRoot (app : AppId)
  | releases (app : AppId)
  | release (app : AppId) (contentId : ContentId)
  | data (path : Path)
  | root
  | archive
  | stage (name : String)
  deriving DecidableEq

inductive PackageError where
  | io (place : Place)
  | archive (message : String)
  | archiveLimit
  | unsafePath (path : String)
  | unsupportedEntry (path : String)
  | unsafeMode (path : String) (mode : Nat)
  | bundle (message : String)
  | inventoryMismatch
  | fileMismatch (path : String)
  | payloadMismatch
  | contentIdMismatch
  | manifest (message : String)
  | compatibility (message : String)
  | state (message : String)
  | noRollback (message : String)
  | systemApp (app : String)
  | unsafePurge (path : Path)
  | unsafeDataPath (path : Path)
  deriving DecidableEq

/-- How the contents of files read. -/
structure Formats (Content : Type) where
  size : Content → Nat
  /-- The SHA-256 of a file's content, in hex. -/
  sha256 : Content → String
  /-- The SHA-256 of a text, in hex. -/
  digest : String → String
  /-- A parsed `bundle.json`, or what is wrong with it. -/
  bundle : Content → Except String BundleV1
  /-- A parsed and validated manifest, or what is wrong with it. -/
  manifest : Content → Except String AppManifest
  /-- The manifest parsed and validated once its `current` paths name the release. -/
  materialized : Content → AppId → ContentId → Except String AppManifest

structure File (Content : Type) where
  content : Content
  mode : Nat

/-- A directory tree: its regular files by their paths, which are Unicode text. A file system's
    names are bytes, and two that are no text may read alike once they are made text. -/
abbrev Tree (Content : Type) := AList fun _ : String => File Content

/-! ## Names and modes -/

/-- The components of a relative path: repeated slashes and inner dots do not count. -/
def components (path : String) : List String :=
  ((path.toList.splitOn '/').map String.ofList).filter fun part => part ≠ "" && part ≠ "."

/-- The path as the file system spells it. -/
def normal (path : String) : String := String.intercalate "/" (components path)

def safeRelative (path : String) : Bool :=
  let parts := (path.toList.splitOn '/').map String.ofList
  parts.head? != some "" && parts.head? != some "." && !parts.contains ".."

def safeIdentifier (value : String) : Bool :=
  !value.isEmpty && decide (value.utf8ByteSize ≤ 64) && value.toList.head? != some '-' &&
    value.toList.getLast? != some '-' && value.toList.all fun c => c.isLower || c.isDigit || c == '-'

def lowerHex64 (value : String) : Bool :=
  value.utf8ByteSize == 64 && value.toList.all fun c => c.isDigit || (decide ('a' ≤ c) && decide (c ≤ 'f'))

/-- The value of a text of octal digits. -/
def octal : List Char → Option Nat
  | [] => none
  | digits => digits.foldl
      (fun value c => value.bind fun v => if '0' ≤ c ∧ c ≤ '7' then some (8 * v + (c.toNat - 48)) else none) (some 0)

/-- A mode that grants the owner reading, and neither special bits nor writing by others. -/
def safeMode (mode : Nat) : Bool := mode &&& 0o7022 == 0 && mode &&& 0o400 != 0

def parseMode (value : String) : Option Nat :=
  if value.utf8ByteSize = 4 then
    (match value.toList with
      | '+' :: digits => octal digits
      | digits => octal digits).filter safeMode
  else none

/-- The characters that `str::trim` takes away. -/
def whitespace (c : Char) : Bool :=
  (decide ('\x09' ≤ c) && decide (c ≤ '\x0d')) || (decide ('\u2000' ≤ c) && decide (c ≤ '\u200a')) ||
    ['\x20', '\u0085', '\u00a0', '\u1680', '\u2028', '\u2029', '\u202f', '\u205f', '\u3000'].contains c

/-! ## The bundle's own description -/

def validateFiles : List BundleFileV1 → List String → Except PackageError (List String)
  | [], paths => .ok paths
  | file :: rest, paths =>
    if !safeRelative file.path || file.path = "bundle.json" || paths.contains file.path || !lowerHex64 file.sha256 ||
        (parseMode file.mode).isNone then
      .error (.bundle ("invalid inventory entry " ++ file.path))
    else validateFiles rest (file.path :: paths)

def validateBundle (bundle : BundleV1) : Except PackageError Unit := do
  if bundle.schema ≠ 1 then throw (.bundle ("unsupported package schema " ++ toString bundle.schema))
  if !safeIdentifier bundle.appId || !safeIdentifier bundle.package then
    throw (.bundle "invalid app or package id")
  if bundle.version.toList.all whitespace || !lowerHex64 bundle.contentId || !lowerHex64 bundle.payloadSha256 ||
      bundle.manifestPath ≠ "manifest.toml" || bundle.files.isEmpty then
    throw (.bundle "invalid package metadata")
  let paths ← validateFiles bundle.files []
  if !paths.contains bundle.manifestPath then throw (.bundle "manifest is not in inventory")

/-- One file's line of the canonical inventory. -/
def canonical (file : BundleFileV1) (mode : Nat) : String :=
  file.path ++ "\x00" ++ String.ofList (Nat.toDigits 8 mode) ++ "\x00" ++ toString file.size ++ "\x00" ++ file.sha256 ++ "\n"

/-- The order of texts, character by character: in UTF-8 it is that of their bytes. -/
def textLe : List Char → List Char → Bool
  | [], _ => true
  | _ :: _, [] => false
  | a :: left, b :: right => decide (a.toNat < b.toNat) || (decide (a = b) && textLe left right)

/-- The files in the order of the canonical inventory. -/
def ordered (files : List BundleFileV1) : List BundleFileV1 :=
  files.insertionSort fun left right => textLe left.path.toList right.path.toList = true

/-- What the content hash takes in before the files. -/
def contentHeader (bundle : BundleV1) : String :=
  "remagic-bundle-content-v1\x00" ++ bundle.appId ++ "\x00" ++ bundle.package ++ "\x00" ++ bundle.version ++ "\x00"

variable {Content : Type} (formats : Formats Content)

/-- The same paths, as sets. -/
def samePaths (left right : List String) : Bool := left.all right.contains && right.all left.contains

/-- One file of the tree is as its record says: its line of the canonical inventory. -/
def verifyFile (tree : Tree Content) (place : Place) (file : BundleFileV1) : Except PackageError String :=
  match tree.lookup file.path with
  | none => .error (.io place)
  | some found =>
    match parseMode file.mode with
    | none => .error (.bundle ("invalid mode for " ++ file.path))
    | some mode =>
      if formats.size found.content ≠ file.size || found.mode ≠ mode || formats.sha256 found.content ≠ file.sha256 then
        .error (.fileMismatch file.path)
      else .ok (canonical file found.mode)

def verifyInventory (tree : Tree Content) (place : Place) (bundle : BundleV1) : Except PackageError Unit := do
  if !samePaths (bundle.files.map BundleFileV1.path) (tree.keys.filter (· ≠ "bundle.json")) then
    throw .inventoryMismatch
  let lines ← (ordered bundle.files).mapM (verifyFile formats tree place)
  let payload := ((ordered bundle.files).zip lines).filter fun entry => "payload/".toList.isPrefixOf entry.1.path.toList
  if formats.digest (String.join (payload.map Prod.snd)) ≠ bundle.payloadSha256 then throw .payloadMismatch
  if formats.digest (contentHeader bundle ++ String.join lines) ≠ bundle.contentId then throw .contentIdMismatch

/-! ## The manifest's contract -/

/-- Whether the manifest admits the device. -/
def AppManifest.supports (manifest : AppManifest) (device : DeviceProfile) : Bool :=
  (manifest.supportedDevices.isEmpty || manifest.supportedDevices.contains device.product) &&
    (manifest.supportedOs.isEmpty || manifest.supportedOs.contains device.osVersion)

def validateManifestContract (bundle : BundleV1) (manifest : AppManifest) (device : DeviceProfile) :
    Except PackageError Unit := do
  if manifest.id.value ≠ bundle.appId || manifest.package ≠ some bundle.package || manifest.version ≠ bundle.version then
    throw (.manifest "manifest identity does not match bundle")
  if manifest.requiredRemagicApi > remagicAppApiVersion then
    throw (.compatibility ("requires ReMagic API " ++ toString manifest.requiredRemagicApi))
  if !manifest.supportedDevices.isEmpty && !manifest.supportedDevices.contains device.product then
    throw (.compatibility ("unsupported device " ++ device.product.name))
  if !manifest.supportedOs.isEmpty && !manifest.supportedOs.contains device.osVersion then
    throw (.compatibility ("unsupported OS " ++ device.osVersion))
  [manifest.exec, manifest.workingDir].forM fun path =>
    if !(List.isPrefixOf ["home", "root", "apps", bundle.appId] path) then
      throw (.manifest ("runtime path escapes application release: " ++ Path.display path))
    else pure ()

/-- A published manifest: the bundled text with its `current` paths rewritten to one
    release. It is kept as the two things that it is made of. -/
structure Published (Content : Type) where
  bundled : Content
  release : ContentId

def materializeManifestBytes (bundled : Content) (app : AppId) (contentId : ContentId) :
    Except PackageError (Published Content) :=
  if !lowerHex64 contentId then .error (.state "invalid package content id")
  else match formats.materialized bundled app contentId with
    | .error message => .error (.manifest message)
    | .ok manifest =>
      if manifest.id ≠ app then .error (.manifest "materialized manifest identity changed")
      else .ok ⟨bundled, contentId⟩

/-! ## A release that is installed already -/

/-- The mode that a file of the inventory has once its release is read-only. -/
def installedMode (sourceMode : Nat) : Nat := if sourceMode &&& 0o111 != 0 then 0o555 else 0o444

/-- One file of the release is the one that its record names. -/
def verifyInstalledFile (release : Tree Content) (place : Place) (file : BundleFileV1) : Except PackageError Unit :=
  match release.lookup file.path with
  | none => .error (.io place)
  | some found =>
    match parseMode file.mode with
    | none => .error (.bundle ("invalid mode for " ++ file.path))
    | some sourceMode =>
      if formats.size found.content ≠ file.size || found.mode ≠ installedMode sourceMode ||
          formats.sha256 found.content ≠ file.sha256 then
        .error (.fileMismatch file.path)
      else .ok ()

def verifyInstalledRelease (release stage : Tree Content) (place : Place) (bundle : BundleV1) :
    Except PackageError Unit := do
  if !samePaths ("bundle.json" :: bundle.files.map BundleFileV1.path) release.keys then throw .inventoryMismatch
  bundle.files.forM (verifyInstalledFile formats release place)
  match release.lookup "bundle.json", stage.lookup "bundle.json" with
  | some installed, some staged =>
    if formats.sha256 installed.content ≠ formats.sha256 staged.content then throw (.fileMismatch "bundle.json")
  | _, _ => throw (.io place)

end Remagic.Package
