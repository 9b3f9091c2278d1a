import Remagic.PackageManager

/-!
# What the manager's calls keep

The rules of the single calls, and from them those of atomic writes, of changing the
modes of a tree and of removing one. A rule for many calls asks of the invariant that
each of them keeps it.
-/

namespace Remagic.Package
open Tasks Job

variable {Content : Type} {allowed : Answer → Prop} {inv : List Place → Disk Content → Prop}
  {fail : PackageError → List Place → Disk Content → Prop} {log : List Place} {disk : Disk Content} {place : Place}

/-- A call may fail. -/
def Faulty (allowed : Answer → Prop) : Prop := ∃ answer, allowed answer ∧ answer.fails = true

/-- Where a call fails, `fail` holds of what stands there. -/
def Fails (allowed : Answer → Prop) (inv : List Place → Disk Content → Prop)
    (fail : PackageError → List Place → Disk Content → Prop) : Prop :=
  ∀ error log disk, Faulty allowed → inv log disk → fail error log disk

section
variable (fails : Fails allowed inv fail) {Q : Unit → List Place → Disk Content → Prop}
  {run : Disk Content → Disk Content}
include fails

/-! ## Single calls -/

theorem keeps_changeWhen {fit : Disk Content → Bool} (stands : inv log disk)
    (unfit : fit disk = false → fail (.io place) log disk) (done : fit disk = true → inv (log ++ [place]) (run disk))
    (ends : fit disk = true → Q () (log ++ [place]) (run disk)) :
    Keeps allowed inv fail Q (changeWhen place fit run) log disk := by
  refine Task.keeps_step stands ?_
  intro answer may
  by_cases failed : answer.fails = true
  · simp only [failed, Bool.true_or, if_true, Option.toList_none, List.append_nil]
    exact ⟨stands, fails _ _ _ ⟨answer, may, failed⟩ stands⟩
  · by_cases fits : fit disk = true
    · simp only [failed, fits, Bool.not_true, Bool.or_false, Bool.false_eq_true]
      exact ⟨done fits, ends fits⟩
    · have not : fit disk = false := by simpa using fits
      simp only [not, Bool.not_false, Bool.or_true, if_true, Option.toList_none, List.append_nil]
      exact ⟨stands, unfit not⟩

theorem keeps_change (stands : inv log disk) (done : inv (log ++ [place]) (run disk))
    (ends : Q () (log ++ [place]) (run disk)) : Keeps allowed inv fail Q (change place run) log disk :=
  keeps_changeWhen fails stands (fun unfit => absurd unfit (by decide)) (fun _ => done) fun _ => ends

theorem keeps_look {α : Type} {Q : α → List Place → Disk Content → Prop} {view : Disk Content → α}
    (stands : inv log disk) (ends : Q (view disk) log disk) :
    Keeps allowed inv fail Q (look place view) log disk := by
  refine Task.keeps_step stands ?_
  intro answer may
  rw [Option.toList_none, List.append_nil]
  by_cases failed : answer.fails = true
  · simp only [failed, if_true]
    exact ⟨stands, fails _ _ _ ⟨answer, may, failed⟩ stands⟩
  · simp only [failed]
    exact ⟨stands, ends⟩

theorem keeps_readDir {Q : List String → List Place → Disk Content → Prop} {names : Disk Content → List String}
    (stands : inv log disk) (ends : ∀ listed, listed.Perm (names disk) → Q listed log disk) :
    Keeps allowed inv fail Q (readDir place names) log disk := by
  refine Task.keeps_step stands ?_
  intro answer may
  rw [Option.toList_none, List.append_nil]
  by_cases failed : answer.fails = true
  · simp only [failed, if_true]
    exact ⟨stands, fails _ _ _ ⟨answer, may, failed⟩ stands⟩
  · simp only [failed]
    exact ⟨stands, ends _ (answer.arranged _)⟩

theorem keeps_probe (stands : inv log disk) :
    Keeps allowed inv fail (fun _ later d => later = log ∧ d = disk) (probe place) log disk :=
  keeps_look fails stands ⟨rfl, rfl⟩

/-- A probe and what follows it. -/
theorem keeps_probe_bind {α : Type} {Q : α → List Place → Disk Content → Prop} {next : Unit → Transaction Content α}
    (rest : Keeps allowed inv fail Q (next ()) log disk) :
    Keeps allowed inv fail Q (probe place >>= next) log disk := by
  refine keeps_bind (keeps_probe fails rest.start) ?_
  rintro _ _ _ _ ⟨rfl, rfl⟩
  exact rest

/-! ## Atomic writes -/

/-- A change and a last probe. -/
theorem keeps_change_probe (stands : inv log disk) (done : inv (log ++ [place]) (run disk))
    (ends : Q () (log ++ [place]) (run disk)) : Keeps allowed inv fail Q (do change place run; probe place) log disk := by
  refine keeps_bind (keeps_change (Q := fun _ later d => later = log ++ [place] ∧ d = run disk) fails stands done
    ⟨rfl, rfl⟩) ?_
  rintro _ _ _ _ ⟨rfl, rfl⟩
  refine (keeps_probe fails done).weaken (fun _ _ kept => kept) (fun _ _ _ _ failed => failed) ?_
  rintro _ _ _ _ ⟨rfl, rfl⟩
  exact ends

theorem keeps_atomicWrite (stands : inv log disk) (done : inv (log ++ [place]) (run disk))
    (ends : Q () (log ++ [place]) (run disk)) : Keeps allowed inv fail Q (atomicWrite place run) log disk :=
  keeps_probe_bind fails (keeps_probe_bind fails (keeps_probe_bind fails (keeps_probe_bind fails
    (keeps_probe_bind fails (keeps_change_probe fails stands done ends)))))

theorem keeps_atomicSymlink {app : AppId} {target : ContentId} (stands : inv log disk)
    (done : inv (log ++ [.current app]) (setCurrent app (some target) disk))
    (ends : Q () (log ++ [.current app]) (setCurrent app (some target) disk)) :
    Keeps allowed inv fail Q (atomicSymlink app target) log disk :=
  keeps_probe_bind fails (keeps_probe_bind fails (keeps_change_probe fails stands done ends))

end

theorem keeps_glance {α : Type} {Q : Option α → List Place → Disk Content → Prop} {view : Disk Content → Option α}
    (stands : inv log disk) (hidden : (∃ answer, allowed answer ∧ answer.hides = true) → Q none log disk)
    (ends : Q (view disk) log disk) : Keeps allowed inv fail Q (glance view) log disk := by
  refine Task.keeps_step stands ?_
  intro answer may
  rw [Option.toList_none, List.append_nil]
  by_cases hides : answer.hides = true
  · simp only [hides, if_true]
    exact ⟨stands, hidden ⟨answer, may, hides⟩⟩
  · simp only [hides]
    exact ⟨stands, ends⟩

theorem keeps_checked {α : Type} {Q : α → List Place → Disk Content → Prop} {verdict : Except PackageError α}
    (stands : inv log disk) (wrong : ∀ error, verdict = .error error → fail error log disk)
    (ends : ∀ result, verdict = .ok result → Q result log disk) :
    Keeps allowed inv fail Q (checked verdict) log disk := by
  cases verdict with
  | ok result => exact ⟨stands, ends result rfl⟩
  | error error => exact ⟨stands, wrong error rfl⟩

/-! ## Directory trees -/

/-- Changing the mode of a file of the tree keeps the invariant. -/
def Chmods (inv : List Place → Disk Content → Prop) (slot : Slot Content) : Prop :=
  ∀ log disk mode path, inv log disk → inv (log ++ [slot.place]) (slot.edit (fun tree => Tree.chmod tree mode path) disk)

/-- Every call that removes the tree keeps the invariant. -/
structure Wears (inv : List Place → Disk Content → Prop) (slot : Slot Content) : Prop where
  chmod : Chmods inv slot
  unlink : ∀ log disk path, inv log disk → inv (log ++ [slot.place]) (slot.edit (fun tree => tree.erase path) disk)
  gone : ∀ log disk, inv log disk → inv (log ++ [slot.place]) (slot.set none disk)

@[simp] theorem releaseSlot_get (app : AppId) (contentId : ContentId) (disk : Disk Content) :
    (releaseSlot app contentId).get disk = (disk.apps app).releases.lookup contentId := rfl

@[simp] theorem stageSlot_get (name : String) (disk : Disk Content) :
    (stageSlot name).get disk = disk.staging.lookup name := rfl

/-- Taking the tree away leaves none. -/
def Slot.Lawful (slot : Slot Content) : Prop := ∀ disk, slot.get (slot.set none disk) = none

theorem releaseSlot_lawful (app : AppId) (contentId : ContentId) :
    (releaseSlot app contentId : Slot Content).Lawful := by
  intro disk
  simp [releaseSlot, Disk.edit, putTree]

theorem stageSlot_lawful (name : String) : (stageSlot name : Slot Content).Lawful := by
  intro disk
  simp [stageSlot, putTree]

section
variable (fails : Fails allowed inv fail) {slot : Slot Content}
include fails

theorem keeps_chmods (chmods : Chmods inv slot) (mode : Nat → Nat) (files : List String) (stands : inv log disk) :
    Keeps allowed inv fail (fun _ => inv) (each (chmod slot mode) files) log disk := by
  refine keeps_each (R := fun _ => inv) (fun _ _ _ kept => kept) ?_ stands
  intro path rest log disk _ kept
  exact keeps_change fails kept (chmods _ _ _ _ kept) (chmods _ _ _ _ kept)

theorem keeps_makeReadOnly (chmods : Chmods inv slot) (stands : inv log disk) :
    Keeps allowed inv fail (fun _ => inv) (makeReadOnly slot) log disk := by
  refine keeps_bind (keeps_readDir (Q := fun _ => inv) fails stands fun _ _ => stands) ?_
  intro files log disk _ kept
  refine keeps_bind (keeps_chmods fails chmods installedMode files kept) ?_
  intro _ log disk _ kept
  refine (keeps_probe fails kept).weaken (fun _ _ kept => kept) (fun _ _ _ _ failed => failed) ?_
  rintro _ _ _ kept ⟨rfl, rfl⟩
  exact kept

theorem keeps_makeWritable (chmods : Chmods inv slot) (stands : inv log disk) :
    Keeps allowed inv fail (fun _ => inv) (makeWritable slot) log disk := by
  refine keeps_probe_bind fails ?_
  refine keeps_bind (keeps_readDir (Q := fun _ => inv) fails stands fun _ _ => stands) ?_
  intro files log disk _ kept
  exact keeps_chmods fails chmods _ files kept

theorem keeps_removeDirAll (wears : Wears inv slot) (lawful : slot.Lawful) (stands : inv log disk) :
    Keeps allowed inv fail (fun _ log disk => inv log disk ∧ slot.get disk = none) (removeDirAll slot) log disk := by
  refine keeps_bind (keeps_readDir (Q := fun _ => inv) fails stands fun _ _ => stands) ?_
  intro files log disk _ kept
  refine keeps_bind (M := fun _ => inv) ?_ ?_
  · refine keeps_each (R := fun _ => inv) (fun _ _ _ kept => kept) ?_ kept
    intro path rest log disk _ kept
    exact keeps_change fails kept (wears.unlink _ _ _ kept) (wears.unlink _ _ _ kept)
  · intro _ log disk _ kept
    exact keeps_change fails kept (wears.gone _ _ kept) ⟨wears.gone _ _ kept, lawful disk⟩

theorem keeps_removeTree (wears : Wears inv slot) (lawful : slot.Lawful) (stands : inv log disk) :
    Keeps allowed inv fail (fun _ log disk => inv log disk ∧ slot.get disk = none) (removeTree slot) log disk := by
  refine keeps_bind (keeps_look (Q := fun found log d => inv log d ∧ found = slot.get d) fails stands ⟨stands, rfl⟩) ?_
  rintro found log disk _ ⟨kept, rfl⟩
  by_cases present : (slot.get disk).isSome = true
  · simp only [present, if_true]
    refine keeps_bind (keeps_makeWritable fails wears.chmod kept) ?_
    intro _ log disk _ kept
    exact keeps_removeDirAll fails wears lawful kept
  · simp only [present]
    exact keeps_pure kept ⟨kept, by simpa using present⟩

end

end Remagic.Package
