import Remagic.Fallible
import Remagic.Runs

/-!
# The frontlight

The manager of the frontlight writes the hardware's registers and a settings file, and
keeps in memory which brightness is wanted and whether the light was forced off. Each of
its operations stops at the first call that fails, with what was written until then.
-/

namespace Remagic.Backlight
open Fallible

def backlightOffPower : Nat := 4

def backlightOnPower : Nat := 0

structure Hardware where
  brightness : Nat
  blPower : Nat
  maxBrightness : Nat
  deriving DecidableEq

/-- The light is off: a brightness of zero, and no power. -/
def Hardware.Dark (hardware : Hardware) : Prop := hardware.brightness = 0 ∧ hardware.blPower = backlightOffPower

instance (hardware : Hardware) : Decidable hardware.Dark := inferInstanceAs (Decidable (_ ∧ _))

/-- The registers, the settings file, and whether each call that is still to come succeeds. -/
structure Device where
  hardware : Hardware
  settings : Option Nat
  answers : List Bool
  deriving DecidableEq

abbrev DeviceM (α : Type) : Type := ExceptT String (StateM Device) α

/-- A call with its effect, which it does not have if it fails. Those beyond the answers fail.
    The failure names the file and the call; what the system says of it follows in the source. -/
def call (failure : String) (effect : Device → Device) : DeviceM Unit := do
  let device ← get
  match device.answers with
  | true :: answers => set (effect { device with answers })
  | false :: answers =>
    set { device with answers }
    throw failure
  | [] => throw failure

def readU32 (file : String) (register : Hardware → Nat) : DeviceM Nat := do
  call ("cannot read " ++ file) id
  return register (← get).hardware

def writeBrightness (value : Nat) : DeviceM Unit :=
  call "cannot write brightness" fun device => { device with hardware := { device.hardware with brightness := value } }

def writePower (value : Nat) : DeviceM Unit :=
  call "cannot write bl_power" fun device => { device with hardware := { device.hardware with blPower := value } }

/-- The part of the greatest brightness, rounded, which is at least one. -/
def nativeFromPercent (percent max : Nat) : Nat :=
  if percent = 0 ∨ max = 0 then 0 else Nat.min (Nat.max ((percent * max + 50) / 100) 1) max

def applyPercent (percent : Nat) : DeviceM Unit := do
  let max ← readU32 "max_brightness" Hardware.maxBrightness
  if max = 0 then throw "frontlight max_brightness is zero"
  if percent = 0 then
    writeBrightness 0
    writePower backlightOffPower
  else
    writePower backlightOnPower
    writeBrightness (nativeFromPercent percent max)

def isPoweredOff : DeviceM Bool := do
  let brightness ← readU32 "actual_brightness" Hardware.brightness
  let blPower ← readU32 "bl_power" Hardware.blPower
  return brightness = 0 ∧ blPower = backlightOffPower

/-- The temporary file takes the setting's place at its renaming, before the directory is synced. -/
def saveSettings (percent : Nat) : DeviceM Unit := do
  if percent > 100 then throw "backlight percent must be between 0 and 100"
  call "cannot create the directory" id
  call "cannot protect the directory" id
  call "cannot write the temporary file" id
  call "cannot commit the temporary file" id
  call "cannot replace the settings" fun device => { device with settings := some percent }
  call "cannot sync the directory" id

/-! ## The manager -/

structure BacklightManager where
  device : Device
  provider : Bool
  desiredPercent : Nat
  forcedOff : Bool := false
  lastError : Option String := none
  sysfsRoot : String := "/sys/class/backlight"
  deriving DecidableEq

inductive Operation where
  | setPercent (percent : Nat)
  | forceOff (reason : String)
  | restoreDesired
  deriving DecidableEq

namespace BacklightManager

variable (manager : BacklightManager)

def unavailable : String := "rm_frontlight is unavailable"

def notFound : String := "rm_frontlight was not found under " ++ manager.sysfsRoot

/-- A handler's result, its failure noted as the last error. -/
def setPercent (percent : Nat) : Except String Unit × BacklightManager :=
  if percent > 100 then (.error "backlight percent must be between 0 and 100", manager)
  else if !manager.provider then
    (.error manager.notFound, { manager with lastError := some manager.notFound })
  else
    match (applyPercent percent).run manager.device with
    | (.error error, device) => (.error error, { manager with device, lastError := some error })
    | (.ok _, device) =>
      match (saveSettings percent).run device with
      | (.error error, device) => (.error error, { manager with device, lastError := some error })
      | (.ok _, device) => (.ok (), { manager with device, desiredPercent := percent, forcedOff := false, lastError := none })

/-- Once the power state has been inspected, or could not be. -/
def darken (reason : String) : Bool × BacklightManager :=
  match (applyPercent 0).run manager.device with
  | (.ok _, device) => (true, { manager with device, forcedOff := true, lastError := none })
  | (.error error, device) =>
    (false, { manager with device, lastError := some ("cannot force frontlight off for " ++ reason ++ ": " ++ error) })

def forceOff (reason : String) : Bool × BacklightManager :=
  if !manager.provider then
    (false, { manager with
      forcedOff := false, lastError := some ("cannot force frontlight off for " ++ reason ++ ": " ++ unavailable) })
  else if manager.forcedOff then (false, manager)
  else
    match isPoweredOff.run manager.device with
    | (.ok true, device) => (false, { manager with device, forcedOff := true, lastError := none })
    | (.ok false, device) | (.error _, device) => { manager with device }.darken reason

def restoreDesired : BacklightManager :=
  if !manager.provider then { manager with forcedOff := false, lastError := some unavailable }
  else
    match (applyPercent manager.desiredPercent).run manager.device with
    | (.ok _, device) => { manager with device, forcedOff := false, lastError := none }
    | (.error error, device) => { manager with device, lastError := some ("cannot restore frontlight: " ++ error) }

/-- The manager at an operation's start, whose calls are answered so. -/
def facing (answers : List Bool) : BacklightManager := { manager with device := { manager.device with answers } }

/-- An operation, and the answers to its calls. -/
def next (step : Operation × List Bool) : BacklightManager :=
  match step.1 with
  | .setPercent percent => ((manager.facing step.2).setPercent percent).2
  | .forceOff reason => ((manager.facing step.2).forceOff reason).2
  | .restoreDesired => (manager.facing step.2).restoreDesired

end BacklightManager

/-! ## What each call leaves -/

/-- The next `k` calls succeed. -/
def Device.Succeeds (device : Device) (k : Nat) : Prop := device.answers.take k = List.replicate k true

instance (device : Device) (k : Nat) : Decidable (device.Succeeds k) := inferInstanceAs (Decidable (_ = _))

theorem run_call (failure : String) (effect : Device → Device) (device : Device) :
    (call failure effect).run device = match device.answers with
      | true :: answers => (.ok (), effect { device with answers })
      | false :: answers => (.error failure, { device with answers })
      | [] => (.error failure, device) := by
  obtain ⟨hardware, settings, answers⟩ := device
  rcases answers with _ | ⟨_ | _, answers⟩ <;> rfl

/-- The registers once the first of the two writes is done. -/
def Hardware.begun (percent : Nat) (hardware : Hardware) : Hardware :=
  if percent = 0 then { hardware with brightness := 0 } else { hardware with blPower := backlightOnPower }

def Hardware.applied (percent : Nat) (hardware : Hardware) : Hardware :=
  if percent = 0 then { hardware with brightness := 0, blPower := backlightOffPower }
  else { hardware with brightness := nativeFromPercent percent hardware.maxBrightness, blPower := backlightOnPower }

/-- How `applyPercent` ends. -/
inductive Applied (percent : Nat) (device : Device) : Except String Unit × Device → Prop where
  | refused (error : String) (answers : List Bool) (fails : device.hardware.maxBrightness = 0 ∨ ¬ device.Succeeds 2) :
      Applied percent device (.error error, { device with answers })
  | half (error : String) (answers : List Bool) (some : device.hardware.maxBrightness ≠ 0) (begins : device.Succeeds 2)
      (fails : ¬ device.Succeeds 3) :
      Applied percent device (.error error, { device with hardware := device.hardware.begun percent, answers })
  | done (some : device.hardware.maxBrightness ≠ 0) (succeeds : device.Succeeds 3) :
      Applied percent device (.ok (), { device with
        hardware := device.hardware.applied percent
        answers := device.answers.drop 3 })

theorem run_readU32 (file : String) (register : Hardware → Nat) (device : Device) :
    (readU32 file register).run device = match device.answers with
      | true :: answers => (.ok (register device.hardware), { device with answers })
      | false :: answers => (.error ("cannot read " ++ file), { device with answers })
      | [] => (.error ("cannot read " ++ file), device) := by
  obtain ⟨hardware, settings, answers⟩ := device
  rcases answers with _ | ⟨_ | _, answers⟩ <;> rfl

variable {hardware : Hardware} {settings : Option Nat}

theorem succeeds_true {answers : List Bool} {k : Nat} :
    Device.Succeeds ⟨hardware, settings, true :: answers⟩ (k + 1) ↔ Device.Succeeds ⟨hardware, settings, answers⟩ k := by
  simp [Device.Succeeds, List.replicate_succ]

theorem succeeds_none (device : Device) : device.Succeeds 0 := rfl

theorem succeeds_false {answers : List Bool} {k : Nat} :
    ¬ Device.Succeeds ⟨hardware, settings, false :: answers⟩ (k + 1) := by
  simp [Device.Succeeds, List.replicate_succ]

theorem succeeds_nil {k : Nat} : ¬ Device.Succeeds ⟨hardware, settings, []⟩ (k + 1) := by
  simp [Device.Succeeds, List.replicate_succ]

/-- The first write, and then the second. -/
theorem writes_applied {percent : Nat} (some : hardware.maxBrightness ≠ 0) (settings : Option Nat)
    (answers : List Bool) {first second : DeviceM Unit} {one two : String} {begins ends : Device → Device}
    (isFirst : first = call one begins) (isSecond : second = call two ends)
    (begun : ∀ answers, begins ⟨hardware, settings, answers⟩ = ⟨hardware.begun percent, settings, answers⟩)
    (applied : ∀ answers, ends ⟨hardware.begun percent, settings, answers⟩ = ⟨hardware.applied percent, settings, answers⟩) :
    Applied percent ⟨hardware, settings, true :: answers⟩
      ((do first; second : DeviceM Unit).run ⟨hardware, settings, answers⟩) := by
  subst isFirst isSecond
  rcases answers with _ | ⟨_ | _, answers⟩
  · exact .refused _ _ (.inr (mt succeeds_true.mp succeeds_nil))
  · exact .refused _ _ (.inr (mt succeeds_true.mp succeeds_false))
  rw [run_bind, run_call]
  simp only [begun, run_call]
  have two : Device.Succeeds ⟨hardware, settings, true :: true :: answers⟩ 2 :=
    succeeds_true.mpr (succeeds_true.mpr (succeeds_none _))
  rcases answers with _ | ⟨_ | _, answers⟩
  · exact .half _ _ some two fun three => succeeds_nil (succeeds_true.mp (succeeds_true.mp three))
  · exact .half _ _ some two fun three => succeeds_false (succeeds_true.mp (succeeds_true.mp three))
  · simp only [applied]
    exact .done some (succeeds_true.mpr (succeeds_true.mpr (succeeds_true.mpr (succeeds_none _))))

theorem applyPercent_applied (percent : Nat) (device : Device) :
    Applied percent device ((applyPercent percent).run device) := by
  obtain ⟨hardware, settings, answers⟩ := device
  unfold applyPercent
  rw [run_bind, run_readU32]
  rcases answers with _ | ⟨_ | _, answers⟩
  · exact .refused _ _ (.inr succeeds_nil)
  · exact .refused _ _ (.inr succeeds_false)
  by_cases zero : hardware.maxBrightness = 0
  · simp only [if_pos zero]
    exact .refused _ _ (.inl zero)
  · simp only [if_neg zero]
    by_cases off : percent = 0
    · simp only [if_pos off]
      refine writes_applied zero settings answers rfl rfl (fun answers => ?_) fun answers => ?_
      · simp [Hardware.begun, off]
      · simp [Hardware.begun, Hardware.applied, off]
    · simp only [if_neg off]
      refine writes_applied zero settings answers rfl rfl (fun answers => ?_) fun answers => ?_
      · simp [Hardware.begun, off]
      · simp [Hardware.begun, Hardware.applied, off]

/-- How `saveSettings` ends, of a percentage that is one. -/
inductive Saved (percent : Nat) (device : Device) : Except String Unit × Device → Prop where
  | refused (error : String) (answers : List Bool) (fails : ¬ device.Succeeds 5) :
      Saved percent device (.error error, { device with answers })
  | unsynced (error : String) (answers : List Bool) (renames : device.Succeeds 5) (fails : ¬ device.Succeeds 6) :
      Saved percent device (.error error, { device with settings := some percent, answers })
  | done (answers : List Bool) (succeeds : device.Succeeds 6) :
      Saved percent device (.ok (), { device with settings := some percent, answers })

/-- A call whose failure ends the computation. -/
theorem run_then {failure : String} {effect : Device → Device} {rest : DeviceM Unit} {device : Device}
    {P : Except String Unit × Device → Prop}
    (fails : ∀ answers, (∀ k, ¬ device.Succeeds (k + 1)) → P (.error failure, { device with answers }))
    (goes : ∀ answers, (∀ k, device.Succeeds (k + 1) ↔ Device.Succeeds { device with answers } k) →
      P (rest.run (effect { device with answers }))) :
    P ((do call failure effect; rest : DeviceM Unit).run device) := by
  obtain ⟨hardware, settings, answers⟩ := device
  rw [run_bind, run_call]
  rcases answers with _ | ⟨_ | _, answers⟩
  · exact fails _ fun _ => succeeds_nil
  · exact fails _ fun _ => succeeds_false
  · exact goes _ fun _ => succeeds_true

theorem saveSettings_saved {percent : Nat} (within : percent ≤ 100) (device : Device) :
    Saved percent device ((saveSettings percent).run device) := by
  unfold saveSettings
  rw [if_neg (Nat.not_lt.mpr within)]
  refine run_then (fun _ fails => .refused _ _ (fails 4)) fun answers first => ?_
  refine run_then (fun _ fails => .refused _ _ (mt (first 4).mp (fails 3))) fun answers second => ?_
  refine run_then (fun _ fails => .refused _ _ (mt ((first 4).trans (second 3)).mp (fails 2))) fun answers third => ?_
  have three (k : Nat) : device.Succeeds (k + 3) ↔ Device.Succeeds { device with answers } k :=
    (first _).trans ((second _).trans (third _))
  refine run_then (fun _ fails => .refused _ _ (mt (three 2).mp (fails 1))) fun answers fourth => ?_
  refine run_then (fun _ fails => .refused _ _ (mt ((three 2).trans (fourth 1)).mp (fails 0))) fun answers fifth => ?_
  have five (k : Nat) : device.Succeeds (k + 5) ↔ Device.Succeeds { device with answers } k :=
    (three _).trans ((fourth _).trans (fifth _))
  rw [run_call]
  rcases answers with _ | ⟨_ | _, answers⟩
  · exact .unsynced _ _ ((five 0).mpr (succeeds_none _)) (mt (five 1).mp succeeds_nil)
  · exact .unsynced _ _ ((five 0).mpr (succeeds_none _)) (mt (five 1).mp succeeds_false)
  · exact .done _ ((five 1).mpr (succeeds_true.mpr (succeeds_none _)))

theorem isPoweredOff_reads (device : Device) :
    ∃ answers, (isPoweredOff.run device).2 = { device with answers } ∧
      ((isPoweredOff.run device).1 = .ok true → device.hardware.Dark) := by
  obtain ⟨hardware, settings, answers⟩ := device
  unfold isPoweredOff
  rw [run_bind, run_readU32]
  rcases answers with _ | ⟨_ | _, answers⟩
  · exact ⟨_, rfl, nofun⟩
  · exact ⟨_, rfl, nofun⟩
  simp only
  rw [run_bind, run_readU32]
  rcases answers with _ | ⟨_ | _, answers⟩
  · exact ⟨_, rfl, nofun⟩
  · exact ⟨_, rfl, nofun⟩
  refine ⟨answers, rfl, fun dark => ?_⟩
  exact decide_eq_true_eq.mp (Except.ok.inj dark)

/-! ## Truthful and untruthful steps -/

/-- A light that is recorded as forced off is off. -/
def BacklightManager.Truthful (manager : BacklightManager) : Prop := manager.forcedOff = true → manager.device.hardware.Dark

/-- The step leaves a truthful record, and a setting that could not be made as it was. -/
structure Honest (manager : BacklightManager) (step : Operation × List Bool) : Prop where
  truthful : (manager.next step).Truthful
  failed : ∀ percent error, step.1 = .setPercent percent → ((manager.facing step.2).setPercent percent).1 = .error error →
    (manager.next step).desiredPercent = manager.desiredPercent ∧ (manager.next step).device.settings = manager.device.settings

/-- No light that was forced off is switched on by an operation that then fails, and no setting is
    renamed into its place and not synced, unless it is the one that was there. -/
def Steady (manager : BacklightManager) : Operation × List Bool → Prop
  | (.setPercent percent, answers) =>
    manager.provider = true → percent ≤ 100 → manager.device.hardware.maxBrightness ≠ 0 →
      (manager.forcedOff = true → percent ≠ 0 → { manager.device with answers }.Succeeds 2 →
        { manager.device with answers }.Succeeds 9) ∧
      (manager.device.settings ≠ some percent → { manager.device with answers }.Succeeds 8 →
        { manager.device with answers }.Succeeds 9)
  | (.forceOff _, _) => True
  | (.restoreDesired, answers) =>
    manager.provider = true → manager.device.hardware.maxBrightness ≠ 0 → manager.forcedOff = true →
      manager.desiredPercent ≠ 0 → { manager.device with answers }.Succeeds 2 → { manager.device with answers }.Succeeds 3

theorem powers_differ : backlightOnPower ≠ backlightOffPower := by decide

theorem begun_dark {percent : Nat} (dark : hardware.Dark) : (hardware.begun percent).Dark ↔ percent = 0 := by
  unfold Hardware.begun
  by_cases off : percent = 0
  · rw [if_pos off]
    exact ⟨fun _ => off, fun _ => ⟨rfl, dark.2⟩⟩
  · rw [if_neg off]
    exact ⟨fun lit => absurd lit.2 powers_differ, fun absurd => (off absurd).elim⟩

theorem applied_dark {percent : Nat} : (hardware.applied percent).Dark ↔ percent = 0 := by
  unfold Hardware.applied
  by_cases off : percent = 0
  · rw [if_pos off]
    exact ⟨fun _ => off, fun _ => ⟨rfl, rfl⟩⟩
  · rw [if_neg off]
    exact ⟨fun lit => absurd lit.2 powers_differ, fun absurd => (off absurd).elim⟩

theorem Device.Succeeds.fewer {device : Device} {j k : Nat} (succeeds : device.Succeeds k) (fewer : j ≤ k) :
    device.Succeeds j := by
  unfold Device.Succeeds at succeeds ⊢
  have cut := congrArg (List.take j) succeeds
  rwa [List.take_take, Nat.min_eq_left fewer, List.take_replicate, Nat.min_eq_left fewer] at cut

/-- The calls of one computation and those after it. -/
theorem succeeds_add {device : Device} {j : Nat} (first : device.Succeeds j) (k : Nat) (hardware : Hardware)
    (settings : Option Nat) :
    Device.Succeeds ⟨hardware, settings, device.answers.drop j⟩ k ↔ device.Succeeds (j + k) := by
  unfold Device.Succeeds at first ⊢
  rw [List.take_add, first, ← List.replicate_append_replicate, List.append_cancel_left_eq]

section
variable {manager later : BacklightManager} {answers : List Bool} {percent : Nat}

theorem honest_failed {error : String} (outcome : (manager.facing answers).setPercent percent = (.error error, later)) :
    Honest manager (.setPercent percent, answers) ↔
      later.Truthful ∧ later.desiredPercent = manager.desiredPercent ∧ later.device.settings = manager.device.settings := by
  have next : manager.next (.setPercent percent, answers) = later := congrArg Prod.snd outcome
  constructor
  · rintro ⟨truthful, failed⟩
    rw [next] at truthful failed
    exact ⟨truthful, failed percent error rfl (congrArg Prod.fst outcome)⟩
  · rintro ⟨truthful, kept⟩
    refine ⟨by rw [next]; exact truthful, fun _ _ same _ => ?_⟩
    rw [next]
    exact kept

theorem honest_done (outcome : (manager.facing answers).setPercent percent = (.ok (), later)) (lit : later.forcedOff = false) :
    Honest manager (.setPercent percent, answers) := by
  have next : manager.next (.setPercent percent, answers) = later := congrArg Prod.snd outcome
  refine ⟨?_, fun _ _ same failed => ?_⟩
  · rw [next]
    intro forced
    rw [lit] at forced
    cases forced
  · cases same
    rw [outcome] at failed
    cases failed

/-- What `setPercent` makes of its two parts. -/
theorem setPercent_applies (present : manager.provider = true) (within : ¬ percent > 100) :
    manager.setPercent percent =
      match (applyPercent percent).run manager.device with
      | (.error error, device) => (.error error, { manager with device, lastError := some error })
      | (.ok _, device) =>
        match (saveSettings percent).run device with
        | (.error error, device) => (.error error, { manager with device, lastError := some error })
        | (.ok _, device) =>
          (.ok (), { manager with device, desiredPercent := percent, forcedOff := false, lastError := none }) := by
  rw [BacklightManager.setPercent, if_neg within, if_neg (by simp [present])]

/-- A failure that leaves the settings as they were and the light dark where none is asked for. -/
theorem stopped_steady {error : String} (present : manager.provider = true) (small : percent ≤ 100)
    (some : manager.device.hardware.maxBrightness ≠ 0)
    (outcome : (manager.facing answers).setPercent percent = (.error error, later))
    (same : later.forcedOff = manager.forcedOff) (kept : later.desiredPercent = manager.desiredPercent)
    (settings : later.device.settings = manager.device.settings)
    (dark : manager.forcedOff = true → (later.device.hardware.Dark ↔ percent = 0))
    (two : Device.Succeeds { manager.device with answers } 2) (stops : ¬ Device.Succeeds { manager.device with answers } 8) :
    Honest manager (.setPercent percent, answers) ↔ Steady manager (.setPercent percent, answers) := by
  rw [honest_failed outcome]
  constructor
  · rintro ⟨truthful, -⟩ _ _ _
    refine ⟨fun forced lit _ => ?_, fun _ eight => (stops eight).elim⟩
    exact absurd ((dark forced).mp (truthful (same.trans forced))) lit
  · intro steady
    refine ⟨fun forced => (dark (same.symm.trans forced)).mpr ?_, kept, settings⟩
    by_contra lit
    exact stops (((steady present small some).1 (same.symm.trans forced) lit two).fewer (by decide))

theorem setPercent_steady (truthful : manager.Truthful) :
    Honest manager (.setPercent percent, answers) ↔ Steady manager (.setPercent percent, answers) := by
  by_cases within : percent > 100
  · have outcome : (manager.facing answers).setPercent percent = (.error _, manager.facing answers) := if_pos within
    exact iff_of_true ((honest_failed outcome).mpr ⟨truthful, rfl, rfl⟩) fun _ small => absurd small (Nat.not_le.mpr within)
  by_cases missing : (!manager.provider) = true
  · have outcome : (manager.facing answers).setPercent percent = (.error _, _) := (if_neg within).trans (if_pos missing)
    refine iff_of_true ((honest_failed outcome).mpr ⟨truthful, rfl, rfl⟩) fun present => ?_
    rw [present] at missing
    cases missing
  have present : manager.provider = true := by simpa using missing
  have small : percent ≤ 100 := Nat.not_lt.mp within
  have outcome := @setPercent_applies (manager.facing answers) percent present within
  rcases ran : (applyPercent percent).run (manager.facing answers).device with ⟨result, device⟩
  have applied := applyPercent_applied percent (manager.facing answers).device
  rw [ran] at outcome applied
  cases applied with
  | refused error _ fails =>
    refine iff_of_true ((honest_failed outcome).mpr ⟨truthful, rfl, rfl⟩) fun _ _ some => ?_
    have stops : ¬ Device.Succeeds { manager.device with answers } 2 := fails.resolve_left some
    exact ⟨fun _ _ two => (stops two).elim, fun _ eight => (stops (eight.fewer (by decide))).elim⟩
  | half error _ some two fails =>
    exact stopped_steady present small some outcome rfl rfl rfl (fun forced => begun_dark (truthful forced)) two
      fun eight => fails (eight.fewer (by decide))
  | done some three =>
    have add (k : Nat) : Device.Succeeds ⟨manager.device.hardware.applied percent, manager.device.settings, answers.drop 3⟩ k ↔
        Device.Succeeds { manager.device with answers } (3 + k) := succeeds_add three k _ _
    have ends := saveSettings_saved small ⟨manager.device.hardware.applied percent, manager.device.settings, answers.drop 3⟩
    simp only [BacklightManager.facing] at outcome
    rcases saved : (saveSettings percent).run
      ⟨manager.device.hardware.applied percent, manager.device.settings, answers.drop 3⟩ with ⟨result, device⟩
    rw [saved] at outcome ends
    cases ends with
    | refused error _ fails =>
      exact stopped_steady present small some outcome rfl rfl rfl (fun _ => applied_dark) (three.fewer (by decide))
        (mt (add 5).mpr fails)
    | unsynced error _ renames fails =>
      have stops := mt (add 6).mpr fails
      rw [honest_failed outcome]
      constructor
      · rintro ⟨later, -, kept⟩ _ _ _
        refine ⟨fun forced lit _ => ?_, fun other _ => (other kept.symm).elim⟩
        exact absurd (applied_dark.mp (later forced)) lit
      · intro steady
        obtain ⟨off, same⟩ := steady present small some
        refine ⟨fun forced => applied_dark.mpr ?_, rfl, ?_⟩
        · by_contra lit
          exact stops (off forced lit (three.fewer (by decide)))
        · by_contra other
          exact stops (same (fun kept => other kept.symm) ((add 5).mp renames))
    | done _ succeeds =>
      have nine := (add 6).mp succeeds
      exact iff_of_true (honest_done outcome rfl) fun _ _ _ => ⟨fun _ _ _ => nine, fun _ _ => nine⟩

theorem honest_quiet {step : Operation × List Bool} (quiet : ∀ percent, step.1 ≠ .setPercent percent) :
    Honest manager step ↔ (manager.next step).Truthful :=
  ⟨fun honest => honest.truthful, fun truthful => ⟨truthful, fun percent _ same => absurd same (quiet percent)⟩⟩

theorem darken_truthful (truthful : manager.Truthful) (reason : String) : (manager.darken reason).2.Truthful := by
  have applied := applyPercent_applied 0 manager.device
  unfold BacklightManager.darken
  rcases ran : (applyPercent 0).run manager.device with ⟨result, device⟩
  rw [ran] at applied
  cases applied with
  | refused error _ fails => exact truthful
  | half error _ some two fails => exact fun forced => (begun_dark (truthful forced)).mpr rfl
  | done some three => exact fun _ => applied_dark.mpr rfl

theorem forceOff_truthful (truthful : manager.Truthful) (reason : String) : (manager.forceOff reason).2.Truthful := by
  unfold BacklightManager.forceOff
  by_cases missing : (!manager.provider) = true
  · rw [if_pos missing]
    exact nofun
  rw [if_neg missing]
  by_cases forced : manager.forcedOff = true
  · rw [if_pos forced]
    exact truthful
  rw [if_neg forced]
  obtain ⟨answers, read, dark⟩ := isPoweredOff_reads manager.device
  rcases ran : isPoweredOff.run manager.device with ⟨result, device⟩
  rw [ran] at read dark
  obtain rfl : device = { manager.device with answers } := read
  rcases result with error | off
  · exact @darken_truthful { manager with device := { manager.device with answers } } truthful reason
  · cases off with
    | true => exact fun _ => dark rfl
    | false => exact @darken_truthful { manager with device := { manager.device with answers } } truthful reason

theorem restoreDesired_steady (truthful : manager.Truthful) :
    Honest manager (.restoreDesired, answers) ↔ Steady manager (.restoreDesired, answers) := by
  rw [honest_quiet fun _ same => by cases same]
  show (manager.facing answers).restoreDesired.Truthful ↔ _
  unfold BacklightManager.restoreDesired
  by_cases missing : (!(manager.facing answers).provider) = true
  · rw [if_pos missing]
    refine iff_of_true nofun fun present => ?_
    rw [show (manager.facing answers).provider = true from present] at missing
    cases missing
  rw [if_neg missing]
  have present : manager.provider = true := by simpa [BacklightManager.facing] using missing
  have applied := applyPercent_applied (manager.facing answers).desiredPercent (manager.facing answers).device
  rcases ran : (applyPercent (manager.facing answers).desiredPercent).run (manager.facing answers).device with ⟨result, device⟩
  rw [ran] at applied
  cases applied with
  | refused error _ fails =>
    exact iff_of_true truthful fun _ some _ _ two => (fails.resolve_left some two).elim
  | half error _ some two fails =>
    constructor
    · intro later _ _ forced lit _
      exact absurd ((begun_dark (truthful forced)).mp (later forced)) lit
    · intro steady forced
      refine (begun_dark (truthful forced)).mpr ?_
      by_contra lit
      exact fails (steady present some forced lit two)
  | done some three => exact iff_of_true nofun fun _ _ _ _ _ => three

end

/-! ## Every sequence of operations -/

theorem honest_iff_steady {manager : BacklightManager} (truthful : manager.Truthful) (step : Operation × List Bool) :
    Honest manager step ↔ Steady manager step := by
  obtain ⟨operation, answers⟩ := step
  cases operation with
  | setPercent percent => exact setPercent_steady truthful
  | forceOff reason =>
    rw [honest_quiet fun _ same => by cases same]
    exact iff_of_true (@forceOff_truthful (manager.facing answers) truthful reason) trivial
  | restoreDesired => exact restoreDesired_steady truthful

theorem honest_along_iff {manager : BacklightManager} (truthful : manager.Truthful) (steps : List (Operation × List Bool)) :
    Runs.Along BacklightManager.next Honest manager steps ↔ Runs.Along BacklightManager.next Steady manager steps := by
  induction steps generalizing manager with
  | nil => exact Iff.rfl
  | cons step rest ih =>
    have one := honest_iff_steady truthful step
    constructor
    · rintro ⟨honest, later⟩
      exact ⟨one.mp honest, (ih honest.truthful).mp later⟩
    · rintro ⟨steady, later⟩
      have honest := one.mpr steady
      exact ⟨honest, (ih honest.truthful).mpr later⟩

/-- `load_at`. -/
def BacklightManager.load (device : Device) (provider : Bool) (desiredPercent : Nat) : BacklightManager :=
  { device, provider, desiredPercent }

theorem load_truthful (device : Device) (provider : Bool) (desiredPercent : Nat) :
    (BacklightManager.load device provider desiredPercent).Truthful := by
  intro forced
  cases forced

/-- From its start on the manager's record stays true to the light, and a setting that fails leaves the
    settings as they were, if and only if no operation switches a light on that was forced off and then
    fails, and no new setting fails once it is in its place. -/
theorem record_true_iff (device : Device) (provider : Bool) (desiredPercent : Nat) (steps : List (Operation × List Bool)) :
    Runs.Along BacklightManager.next Honest (.load device provider desiredPercent) steps ↔
      Runs.Along BacklightManager.next Steady (.load device provider desiredPercent) steps :=
  honest_along_iff (load_truthful device provider desiredPercent) steps

/-- A light that is on at half its brightness. -/
def lit : Device := { hardware := { brightness := 1023, blPower := 0, maxBrightness := 2047 }, settings := some 50, answers := [] }

/-- The light is forced off for a sleep; a setting then switches it on and cannot be saved. -/
theorem unsaved_setting_stays_lit :
    let manager := [(Operation.forceOff "sleep", List.replicate 5 true), (.setPercent 30, List.replicate 3 true)].foldl
      BacklightManager.next (.load lit true 50)
    manager.forcedOff = true ∧ ¬ manager.device.hardware.Dark ∧ (manager.forceOff "sleep").2 = manager := by
  decide +kernel

end Remagic.Backlight
