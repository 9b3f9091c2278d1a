import Remagic.Bundles
import Remagic.TomlReplaced

/-!
# Manifests that name a release

A bundle's manifest names the application's `current` link. When it is published, the
link's path is replaced by the release's wherever a slash or a quotation mark follows it,
in the manifest's text as it is written. The rest of the TOML reader, and what a manifest
says, are parameters: they see of a string only what it stands for.
-/

namespace Remagic.ManifestText
open Remagic.Package (PackageError)
open TomlText

/-! ## Replacing text -/

/-- `str::replace`, with the number of characters that are part of a match still. -/
def replaceFrom (old new : List Char) : Nat → List Char → List Char
  | _, [] => []
  | 0, c :: rest =>
    if old <+: c :: rest then new ++ replaceFrom old new (old.length - 1) rest else c :: replaceFrom old new 0 rest
  | skip + 1, _ :: rest => replaceFrom old new skip rest

def replace (old new text : List Char) : List Char := replaceFrom old new 0 text

/-! ## The manifest's reader -/

/-- A document without its comments, each string as what it stands for. -/
inductive Token where
  | code (c : Char)
  | text (quote : Quote) (value : List Char)
  deriving DecidableEq

def tokenOf : Item → Token
  | .code c => .code c
  | .string quote written => .text quote (valueText written)

def splitSlash : List Char → List (List Char)
  | [] => [[]]
  | c :: rest =>
    if c = '/' then [] :: splitSlash rest
    else
      match splitSlash rest with
      | [] => [[c]]
      | first :: more => (c :: first) :: more

/-- The components of an absolute path. -/
def components (path : List Char) : List (List Char) := (splitSlash path).filter fun name => name ≠ [] ∧ name ≠ ['.']

/-- Two documents that differ at most in what some of their strings stand for. -/
def SameBut (bears : Nat → Bool) (tokens others : List Token) : Prop :=
  others.length = tokens.length ∧ ∀ i token other, tokens[i]? = some token → others[i]? = some other →
    other = token ∨ bears i ∧ ∃ quote value later, token = .text quote value ∧ other = .text quote later

/-- What the reader makes of a document: a manifest, each of whose paths is a string that
    bears one; which strings do is told by the others. -/
structure Reader (Manifest : Type) where
  manifest : List Token → Except String Manifest
  validate : Manifest → Except String Unit
  id : Manifest → String
  paths : Manifest → List (List (List Char))
  bears : List Token → Nat → Bool
  from_strings : ∀ {tokens found}, manifest tokens = .ok found → ∀ path ∈ paths found, ∃ i quote value,
    tokens[i]? = some (.text quote value) ∧ bears tokens i ∧ components value = path
  steady : ∀ {tokens others}, SameBut (bears tokens) tokens others → bears others = bears tokens

variable {Manifest : Type}

/-- `toml::from_str`. -/
def Reader.fromStr (reader : Reader Manifest) (text : List Char) : Except String Manifest :=
  match document text with
  | none => .error "invalid TOML"
  | some items => reader.manifest (items.map tokenOf)

/-! ## Materializing -/

def currentPath (appId : AppId) : List Char := "/home/root/apps/".toList ++ (appId.value.toList ++ "/current".toList)

def releasePath (appId : AppId) (contentId : List Char) : List Char :=
  "/home/root/apps/".toList ++ (appId.value.toList ++ ("/releases/".toList ++ contentId))

def contentIdDigit (c : Char) : Bool := c.isDigit || ('a' ≤ c && c ≤ 'f')

def materializeManifestBytes (reader : Reader Manifest) (bundled : List Char) (appId : AppId) (contentId : List Char) :
    Except PackageError (List Char) := do
  if contentId.length ≠ 64 || !contentId.all contentIdDigit then throw (.state "invalid package content id")
  let current := currentPath appId
  let release := releasePath appId contentId
  let materialized := replace (current ++ ['"']) (release ++ ['"'])
    (replace (current ++ ['/']) (release ++ ['/']) bundled)
  if current ++ ['/'] <:+: materialized || current ++ ['"'] <:+: materialized then
    throw (.manifest "application manifest retains a mutable current path")
  let manifest ← (reader.fromStr materialized).mapError .manifest
  (reader.validate manifest).mapError .manifest
  if reader.id manifest ≠ appId.value then throw (.manifest "materialized manifest identity changed")
  return materialized

end Remagic.ManifestText
