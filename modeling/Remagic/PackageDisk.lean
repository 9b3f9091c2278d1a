import Mathlib.Logic.Function.Basic
import Remagic.Bundles
import Remagic.Tasks

/-!
# The package manager's disk

The files that the manager owns, and the file system calls that it makes on them.
The process may stop before any call, a call may fail and then changes nothing, and
a directory lists its entries in any order. Each call that changes one of these
files leaves the place that it changed; the steps that fill a temporary file or
sync a directory change nothing that the manager reads back.
-/

namespace Remagic.Package
open Tasks

structure InstalledPackageStateV1 where
  schema : Nat := 1
  appId : String
  package : String
  currentContentId : ContentId
  previousContentId : Option ContentId := none
  version : String
  deriving DecidableEq

/-- The files of one application: its releases, the release that its `current` link
    names, its published manifest and its package state. -/
structure AppFiles (Content : Type) where
  releases : AList fun _ : ContentId => Tree Content := ∅
  current : Option ContentId := none
  manifest : Option (Published Content) := none
  state : Option InstalledPackageStateV1 := none

structure TransactionJournalV1 (Content : Type) where
  schema : Nat := 1
  appId : String
  targetContentId : ContentId
  targetPreexisted : Bool
  previousContentId : Option ContentId
  previousManifest : Option (Published Content)
  previousState : Option InstalledPackageStateV1

structure Disk (Content : Type) where
  apps : AppId → AppFiles Content := fun _ => {}
  journals : AList fun _ : String => TransactionJournalV1 Content := ∅
  staging : AList fun _ : String => Tree Content := ∅

/-- What the system answers to a call. A call that only asks whether something is
    there takes every failure for its absence, and is answered so when it `hides`. -/
structure Answer where
  fails : Bool := false
  hides : Bool := false
  arrange : List String → List String := id
  arranged : ∀ names, (arrange names).Perm names := by exact fun names => List.Perm.refl names

variable {Content : Type}

namespace Disk

/-- Edit the files of one application. -/
def edit (app : AppId) (change : AppFiles Content → AppFiles Content) (disk : Disk Content) : Disk Content :=
  { disk with apps := Function.update disk.apps app (change (disk.apps app)) }

end Disk

def setCurrent (app : AppId) (current : Option ContentId) : Disk Content → Disk Content :=
  Disk.edit app fun files => { files with current }

def setManifest (app : AppId) (manifest : Option (Published Content)) : Disk Content → Disk Content :=
  Disk.edit app fun files => { files with manifest }

def setState (app : AppId) (state : Option InstalledPackageStateV1) : Disk Content → Disk Content :=
  Disk.edit app fun files => { files with state }

/-- What the manager does on the disk. -/
abbrev Transaction (Content : Type) (α : Type) := Job (Disk Content) Answer Place PackageError α

/-- A call that changes a place: it fails, or the disk is not fit for it, or it succeeds. -/
def changeWhen (place : Place) (fit : Disk Content → Bool) (run : Disk Content → Disk Content) :
    Transaction Content Unit :=
  ExceptT.mk (Task.step
    (fun answer disk => if answer.fails || !fit disk then (.error (.io place), disk) else (.ok (), run disk))
    fun answer disk => if answer.fails || !fit disk then none else some place)

def change (place : Place) (run : Disk Content → Disk Content) : Transaction Content Unit :=
  changeWhen place (fun _ => true) run

/-- A call that answers what the disk holds, if it does not fail. -/
def look {α : Type} (place : Place) (view : Disk Content → α) : Transaction Content α :=
  ExceptT.mk (Task.step
    (fun answer disk => if answer.fails then (.error (.io place), disk) else (.ok (view disk), disk)) fun _ _ => none)

/-- A call that only asks what is there. -/
def glance {α : Type} (view : Disk Content → Option α) : Transaction Content (Option α) :=
  ExceptT.mk (Task.step (fun answer disk => (.ok (if answer.hides then none else view disk), disk)) fun _ _ => none)

/-- A call that changes nothing that the manager reads back. -/
def probe (place : Place) : Transaction Content Unit := look place fun _ => ()

/-- `fs::read_dir`. -/
def readDir (place : Place) (names : Disk Content → List String) : Transaction Content (List String) :=
  ExceptT.mk (Task.step
    (fun answer disk => if answer.fails then (.error (.io place), disk) else (.ok (answer.arrange (names disk)), disk))
    fun _ _ => none)

/-- What a check of its own answers. -/
def checked {α : Type} (verdict : Except PackageError α) : Transaction Content α := ExceptT.mk (pure verdict)

/-! ## Files -/

/-- `atomic_write`: the parent directory, the temporary file, its bytes, its mode and its
    sync, then the rename onto the place and the sync of the directory. -/
def atomicWrite (place : Place) (run : Disk Content → Disk Content) : Transaction Content Unit := do
  probe place
  probe place
  probe place
  probe place
  probe place
  change place run
  probe place

/-- `atomic_symlink`. -/
def atomicSymlink (app : AppId) (target : ContentId) : Transaction Content Unit := do
  probe (.current app)
  probe (.current app)
  change (.current app) (setCurrent app (some target))
  probe (.current app)

def writeManifest (app : AppId) (text : Published Content) : Transaction Content Unit :=
  atomicWrite (.manifest app) (setManifest app (some text))

def writeState (app : AppId) (next : InstalledPackageStateV1) : Transaction Content Unit :=
  atomicWrite (.state app) (setState app (some next))

def putJournal (name : String) (journal : TransactionJournalV1 Content) (disk : Disk Content) : Disk Content :=
  { disk with journals := disk.journals.insert name journal }

def writeJournal (name : String) (journal : TransactionJournalV1 Content) : Transaction Content Unit :=
  atomicWrite (.journal name) (putJournal name journal)

def removeCurrent (app : AppId) : Transaction Content Unit := change (.current app) (setCurrent app none)

def removeManifest (app : AppId) : Transaction Content Unit := change (.manifest app) (setManifest app none)

def removeState (app : AppId) : Transaction Content Unit := change (.state app) (setState app none)

def eraseJournal (name : String) (disk : Disk Content) : Disk Content :=
  { disk with journals := disk.journals.erase name }

def removeJournal (name : String) : Transaction Content Unit := change (.journal name) (eraseJournal name)

/-! ## Directory trees -/

/-- Where a directory tree is kept. -/
structure Slot (Content : Type) where
  place : Place
  get : Disk Content → Option (Tree Content)
  set : Option (Tree Content) → Disk Content → Disk Content

/-- Put a tree under a name, or take the name away. -/
def putTree (name : String) (tree : Option (Tree Content)) (trees : AList fun _ : String => Tree Content) :
    AList fun _ : String => Tree Content :=
  match tree with
  | some tree => trees.insert name tree
  | none => trees.erase name

def releaseSlot (app : AppId) (contentId : ContentId) : Slot Content where
  place := .release app contentId
  get disk := (disk.apps app).releases.lookup contentId
  set tree := Disk.edit app fun files => { files with releases := putTree contentId tree files.releases }

def stageSlot (name : String) : Slot Content where
  place := .stage name
  get disk := disk.staging.lookup name
  set tree disk := { disk with staging := putTree name tree disk.staging }

namespace Slot
variable (slot : Slot Content)

/-- Edit the tree, if there is one. -/
def edit (run : Tree Content → Tree Content) (disk : Disk Content) : Disk Content :=
  match slot.get disk with
  | some tree => slot.set (some (run tree)) disk
  | none => disk

def files (disk : Disk Content) : List String := (slot.get disk).elim [] AList.keys

end Slot

/-- Set the mode of one file, as a function of the mode that it has. -/
def Tree.chmod (tree : Tree Content) (mode : Nat → Nat) (path : String) : Tree Content :=
  match tree.lookup path with
  | some file => tree.insert path { file with mode := mode file.mode }
  | none => tree

def chmod (slot : Slot Content) (mode : Nat → Nat) (path : String) : Transaction Content Unit :=
  change slot.place (slot.edit fun tree => Tree.chmod tree mode path)

def makeReadOnly (slot : Slot Content) : Transaction Content Unit := do
  let files ← readDir slot.place slot.files
  Job.each (chmod slot installedMode) files
  probe slot.place

def makeWritable (slot : Slot Content) : Transaction Content Unit := do
  probe slot.place
  let files ← readDir slot.place slot.files
  Job.each (chmod slot fun _ => 0o644) files

def unlink (slot : Slot Content) (path : String) : Transaction Content Unit :=
  change slot.place (slot.edit fun tree => tree.erase path)

/-- `fs::remove_dir_all`: the files one by one, then the directory. -/
def removeDirAll (slot : Slot Content) : Transaction Content Unit := do
  let files ← readDir slot.place slot.files
  Job.each (unlink slot) files
  change slot.place (slot.set none)

def removeTree (slot : Slot Content) : Transaction Content Unit := do
  let found ← look slot.place slot.get
  if found.isSome then
    makeWritable slot
    removeDirAll slot
  else pure ()

/-! ## An application's directory -/

def releaseNames (app : AppId) (disk : Disk Content) : List ContentId := (disk.apps app).releases.keys

/-- The entries of the application's directory that the manager made. -/
def appEntries (app : AppId) (disk : Disk Content) : List String :=
  if (disk.apps app).current.isSome then ["current", "releases"] else ["releases"]

def removeAppEntry (app : AppId) (entry : String) : Transaction Content Unit := do
  if entry = "current" then removeCurrent app
  else
    let names ← readDir (.releases app) (releaseNames app)
    Job.each (fun name => removeDirAll (releaseSlot app name)) names
    probe (.releases app)

/-- `remove_tree` of the application's directory. -/
def removeAppRoot (app : AppId) : Transaction Content Unit := do
  probe (.appRoot app)
  let names ← readDir (.releases app) (releaseNames app)
  Job.each (fun name => makeWritable (releaseSlot app name)) names
  let entries ← readDir (.appRoot app) (appEntries app)
  Job.each (removeAppEntry app) entries
  probe (.appRoot app)

end Remagic.Package
