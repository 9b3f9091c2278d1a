import Remagic.DaemonState

/-!
# The system controller

The controller hands the device over between the stock shell and the managed domain, one
command after another, and any of them may fail. The managed domain keeps the device awake
by a named wake lock, which the kernel keeps for no process in particular.
-/

namespace Remagic.SystemController
open Daemon (ServiceUnit)
open Programs (Program Contract Assertion)
open Programs.Job (Spec Keeps require ofOption ofResult outcome mapError each Only only_pure only_throw only_bind only_ite
  only_outcome only_mapError only_each)

/-! ## The commands -/

inductive SystemUnit where
  | xochitl
  | paperweight
  | managed (unit : ServiceUnit)
  deriving DecidableEq

def SystemUnit.name : SystemUnit → String
  | .xochitl => "xochitl.service"
  | .paperweight => "paperweight.service"
  | .managed unit => unit.name

inductive Command : Type → Type where
  /-- The name is written to `/sys/power/wake_lock`. -/
  | acquire : Command (Except String Unit)
  /-- The name is written to `/sys/power/wake_unlock`; that it was absent is no failure. -/
  | release : Command (Except String Unit)
  | start (unit : SystemUnit) : Command (Except String Unit)
  | stop (unit : SystemUnit) : Command (Except String Unit)
  | kill (unit : SystemUnit) : Command (Except String Unit)
  | isActive (unit : SystemUnit) : Command (Except String Bool)
  | isLoaded (unit : SystemUnit) : Command (Except String Bool)
  | mask (unit : SystemUnit) : Command (Except String Unit)
  | unmask (unit : SystemUnit) : Command (Except String Unit)
  | resetFailed : Command (Except String Unit)
  | removeFramebufferLock : Command (Except String Unit)
  | publishMarker : Command (Except String Unit)
  | removeMarker : Command (Except String Unit)
  | autosleepMode : Command (Except String String)
  /-- The names in `/sys/power/wake_lock`. -/
  | wakeLocks : Command (Except String (List String))
  | suspendSuccess : Command (Except String Nat)
  /-- The active wakeup sources, if the kernel tells of them. -/
  | wakeupSources : Command (Option (List String))
  /-- What is said of the counters and the sources when a suspend is given up. -/
  | diagnosis : Command String

/-- What the world answers. -/
structure Reply where
  ok : Bool := true
  /-- A command that failed took effect nevertheless. -/
  took : Bool := false
  flag : Bool := false
  text : String := ""
  names : List String := []
  count : Nat := 0

structure SystemState where
  /-- The wake lock is held. -/
  held : Bool
  /-- Ghost: `xochitl.service` was seen active, and not stopped since. -/
  proven : Bool := false

def answer {α : Type} (value : α) (described : String → String) (reply : Reply) : Except String α :=
  if reply.ok then .ok value else .error (described reply.text)

def Command.exec {β : Type} (command : Command β) (reply : Reply) (s : SystemState) : β × SystemState :=
  match command with
  | .acquire =>
    (answer () ("cannot acquire managed wake lock: " ++ ·) reply, { s with held := s.held || reply.ok || reply.took })
  | .release =>
    (answer () ("cannot release managed wake lock: " ++ ·) reply, { s with held := s.held && !(reply.ok || reply.took) })
  | .start _ | .kill _ | .mask _ | .unmask _ | .resetFailed | .removeFramebufferLock => (answer () id reply, s)
  | .stop unit => (answer () id reply, { s with proven := s.proven && unit ≠ .xochitl })
  | .isActive unit =>
    (answer reply.flag id reply, { s with proven := s.proven || unit = .xochitl && reply.ok && reply.flag })
  | .isLoaded _ => (answer reply.flag id reply, s)
  | .publishMarker => (answer () ("cannot publish managed-domain marker: " ++ ·) reply, s)
  | .removeMarker => (answer () ("cannot remove managed-domain marker /run/remagic/managed-domain: " ++ ·) reply, s)
  | .autosleepMode => (answer reply.text ("cannot inspect kernel autosleep mode: " ++ ·) reply, s)
  | .wakeLocks => (answer reply.names ("cannot inspect active wake locks: " ++ ·) reply, s)
  | .suspendSuccess => (answer reply.count ("cannot inspect kernel suspend counter: " ++ ·) reply, s)
  | .wakeupSources => (if reply.ok then some reply.names else none, s)
  | .diagnosis => (reply.text, s)

def commands : Programs.Meaning Command Reply SystemState where
  ready _ _ := true
  exec := Command.exec

abbrev Controller (α : Type) := Programs.Job Command String α

def run {α : Type} (command : Command (Except String α)) : Controller α := Programs.Job.try' command

def ask {α : Type} (command : Command α) : Controller α := Programs.Job.op command

/-! ## The hand-over -/

def wakelockName : String := "remagic-managed"

/-- The display host is last: its clients are gone before. -/
def managedDomainUnits : List ServiceUnit := [.home, .runtime, .everyApp, .display]

/-- `wait_for_state`, which looks `polls` times before its time is up. -/
def waitForState (unit : SystemUnit) (active : Bool) : Nat → Controller Unit
  | 0 => throw (unit.name ++ " did not become " ++ (if active then "active" else "inactive") ++ " within 5 seconds")
  | polls + 1 => do
    if (← run (.isActive unit)) = active then return
    waitForState unit active polls

def stopAndWait (polls : Nat) (unit : SystemUnit) : Controller Unit := do
  let first ← outcome (run (.stop unit))
  if !(← run (.isActive unit)) then return
  let _ ← outcome (run (.kill unit))
  let _ ← outcome (run (.stop unit))
  mapError (fun waitError => match first with
      | .error firstError => firstError ++ "; forced stop also failed: " ++ waitError
      | .ok _ => waitError)
    (waitForState unit false polls)

def stopManagedDomain (polls : Nat) : Controller Unit :=
  each (fun unit => mapError (fun error => "cannot evict managed unit " ++ unit.name ++ ": " ++ error)
    (stopAndWait polls (.managed unit))) managedDomainUnits

def startPaperweightIfInstalled : Controller Unit := do
  if ← run (.isLoaded .paperweight) then run (.start .paperweight)

/-- What `ensure_system` and `restore_system` end with. -/
def startStock (polls : Nat) : Controller Unit := do
  run .removeMarker
  run (.unmask .xochitl)
  run .resetFailed
  run (.start .xochitl)
  waitForState .xochitl true polls
  let _ ← outcome (run .release)
  let _ ← outcome startPaperweightIfInstalled

def enterManaged (polls : Nat) : Controller Unit := do
  run .acquire
  stopManagedDomain polls
  run (.mask .xochitl)
  stopAndWait polls .paperweight
  stopAndWait polls .xochitl
  let _ ← outcome (run .removeFramebufferLock)
  run .publishMarker

def restoreSystem (polls : Nat) : Controller Unit := startStock polls

/-! ## Suspending -/

def externalWakeLocks (names : List String) : List String := names.filter (· ≠ wakelockName)

def blockedBy (blockers : List String) : String := "kernel suspend is blocked by active wake locks: " ++ " ".intercalate blockers

/-- `wait_wakeup_sources_quiet`, which looks again `polls` times before its time is up. -/
def waitWakeupSourcesQuiet (polls : Nat) : Controller Unit := do
  match ← ask .wakeupSources with
  | none | some [] => return
  | some _ =>
    match polls with
    | 0 => throw ("kernel suspend is blocked by active wakeup sources: " ++ (← ask .diagnosis))
    | polls + 1 => waitWakeupSourcesQuiet polls

/-- The wait for the kernel, once the wake lock is let go. -/
def awaitSuspend (baseline polls : Nat) : Controller Unit := do
  if (← run .suspendSuccess) > baseline then return
  let names ← outcome (run .wakeLocks)
  match externalWakeLocks (names.toOption.getD []) with
  | [] =>
    match polls with
    | 0 => throw ("kernel autosleep did not complete: " ++ (← ask .diagnosis))
    | polls + 1 => awaitSuspend baseline polls
  | blockers => throw (blockedBy blockers ++ "; autosleep wait aborted: " ++ (← ask .diagnosis))

def suspend (settles polls : Nat) : Controller Unit := do
  let mode ← run .autosleepMode
  require (mode = "mem") ("kernel autosleep mode is \"" ++ mode ++ "\", expected mem")
  match externalWakeLocks (← run .wakeLocks) with
  | [] =>
    let baseline ← run .suspendSuccess
    waitWakeupSourcesQuiet settles
    run .release
    awaitSuspend baseline polls
  | blockers => throw (blockedBy blockers)

/-! ## What becomes of the wake lock -/

def Command.releases {β : Type} : Command β → Bool
  | .release => true
  | _ => false

def Command.steady {β : Type} : Command β → Prop
  | .acquire | .release => False
  | _ => True

/-- The wake lock is let go only once the stock shell is proven active, or for a suspend. -/
def handOver (suspending : Prop) : Contract Command Reply SystemState where
  rely s t := s = t
  refl _ := rfl
  trans _ _ _ first second := first.trans second
  told _ _ _ := True
  guarantee command _ s := command.releases = true → suspending ∨ s.proven = true

/-- What is so of the wake lock. -/
def Lock {suspending : Prop} (P : Bool → Prop) : Assertion (handOver suspending) where
  holds s := P s.held
  stable _ _ same holds := same ▸ holds

def Proven {suspending : Prop} (P : Bool → Prop) : Assertion (handOver suspending) where
  holds s := s.proven = true ∧ P s.held
  stable _ _ same holds := same ▸ holds

section
variable {suspending : Prop} {P : Bool → Prop} {α β : Type}

theorem Command.exec_held {command : Command β} (steady : command.steady) (reply : Reply) (s : SystemState) :
    (command.exec reply s).2.held = s.held ∧ command.releases = false := by
  cases command <;> first | exact ⟨rfl, rfl⟩ | exact steady.elim

theorem steady_keeps {job : Controller α} (only : Only (@Command.steady) job) :
    Keeps commands (Lock P : Assertion (handOver suspending)) job := by
  refine Programs.Job.Only.spec only ?_
  intro γ command steady s holds _ reply _
  obtain ⟨held, kept⟩ := command.exec_held steady reply s
  refine ⟨fun releases => ?_, ?_⟩
  · rw [kept] at releases
    cases releases
  · show P (command.exec reply s).2.held
    rw [held]
    exact holds

/-- A steady beginning. -/
theorem steady_bind {F : Bool → Prop} {Q : α → Assertion (handOver suspending)} {job : Controller β} {next : β → Controller α}
    (first : Only (@Command.steady) job) (fails : ∀ held, P held → F held)
    (second : ∀ result, Spec commands (Lock P) (next result) Q fun _ => Lock F) :
    Spec commands (Lock P) (job >>= next) Q fun _ => Lock F :=
  Spec.bind (M := fun _ => Lock P) ((steady_keeps first).weaken (fun _ h => h) (fun _ _ h => h) fun _ s => fails s.held) second

theorem run_steady {command : Command (Except String α)} (steady : command.steady) : Only (@Command.steady) (run command) :=
  (Programs.Job.only_try command).mpr steady

theorem ask_steady {command : Command α} (steady : command.steady) : Only (@Command.steady) (ask command) :=
  (Programs.Job.only_op command).mpr steady

theorem waitForState_steady (unit : SystemUnit) (active : Bool) (polls : Nat) :
    Only (@Command.steady) (waitForState unit active polls) := by
  induction polls with
  | zero => exact only_throw _
  | succ polls ih =>
    refine only_bind (run_steady trivial) fun found => ?_
    split
    · exact only_pure ()
    · exact ih

theorem stopAndWait_steady (polls : Nat) (unit : SystemUnit) : Only (@Command.steady) (stopAndWait polls unit) := by
  unfold stopAndWait
  refine only_bind (only_outcome (run_steady trivial)) fun first => only_bind (run_steady trivial) fun active => ?_
  refine only_ite (fun _ => only_pure ()) fun _ => ?_
  refine only_bind (only_outcome (run_steady trivial)) fun _ => only_bind (only_outcome (run_steady trivial)) fun _ => ?_
  exact only_mapError (waitForState_steady unit false polls)

theorem stopManagedDomain_steady (polls : Nat) : Only (@Command.steady) (stopManagedDomain polls) :=
  only_each fun unit => only_mapError (stopAndWait_steady polls (.managed unit))

/-- A wait for the stock shell that ends well has seen it. -/
theorem waitForState_proven (polls : Nat) :
    Spec commands (Lock P : Assertion (handOver suspending)) (waitForState .xochitl true polls) (fun _ => Proven P) fun _ => Lock P := by
  induction polls with
  | zero => exact Programs.Job.spec_throw fun _ holds => holds
  | succ polls ih =>
    unfold waitForState
    refine Spec.bind (M := fun found => if found = true then Proven P else Lock P) (Programs.Job.spec_try ?_) fun found => ?_
    · intro s holds _ reply _
      have kept : P s.held := holds
      refine ⟨fun releases => (by cases releases), ?_⟩
      cases ok : reply.ok with
      | false => simpa [commands, Command.exec, answer, ok, Lock] using kept
      | true =>
        cases active : reply.flag with
        | false => simpa [commands, Command.exec, answer, ok, active, Lock] using kept
        | true => simpa [commands, Command.exec, answer, ok, active, Proven] using kept
    · cases found with
      | true => exact Programs.Job.spec_pure fun _ holds => holds
      | false => exact ih

/-- The stock shell takes over, and only then the wake lock may be let go. -/
theorem startStock_spec (polls : Nat) (before : Bool) :
    Spec commands (Lock (· = before) : Assertion (handOver suspending)) (startStock polls)
      (fun _ => Lock fun held => held = true → before = true) fun _ => Lock (· = before) := by
  unfold startStock
  iterate 4 refine Spec.bind (steady_keeps (run_steady trivial)) fun _ => ?_
  refine Spec.bind (waitForState_proven polls) fun _ => ?_
  refine Spec.bind (M := fun _ => Lock fun held => held = true → before = true) ?_ fun _ => ?_
  · refine Spec.weaken (Programs.Job.Spec.outcome (Q := fun _ => Lock fun held => held = true → before = true)
        (F := fun _ => Lock fun held => held = true → before = true) (G := fun _ => Lock (· = before))
        (Programs.Job.spec_try ?_)) (fun _ h => h) ?_ fun _ _ h => h
    · rintro s ⟨proven, rfl⟩ _ reply _
      refine ⟨fun _ => .inr proven, ?_⟩
      have after : (commands.exec .release reply s).2.held = true → s.held = true := by
        intro held
        have kept : (s.held && !(reply.ok || reply.took)) = true := held
        simp_all
      split <;> exact after
    · intro result t ends
      cases result <;> exact ends
  · refine Spec.bind (M := fun _ => Lock fun held => held = true → before = true) ?_ fun _ => Programs.Job.spec_pure fun _ h => h
    have paperweight : Only (@Command.steady) startPaperweightIfInstalled :=
      only_bind (run_steady trivial) fun loaded => only_ite (fun _ => run_steady trivial) fun _ => only_pure ()
    refine Spec.weaken (Programs.Job.Spec.outcome (steady_keeps paperweight)) (fun _ h => h) ?_ fun _ _ h => h
    intro result t ends
    cases result <;> exact ends

theorem acquire_spec (before : Bool) :
    Spec commands (Lock (· = before) : Assertion (handOver suspending)) (run .acquire)
      (fun _ => Lock (· = true)) fun _ => Lock fun held => before = true → held = true := by
  refine Programs.Job.spec_try ?_
  rintro s rfl _ reply _
  refine ⟨fun releases => (by cases releases), ?_⟩
  cases ok : reply.ok <;> simp [commands, Command.exec, answer, ok, Lock]
  intro held
  exact .inl held

/-- The managed domain is entered with the wake lock, and a failure does not let it go. -/
theorem enterManaged_spec (polls : Nat) (before : Bool) :
    Spec commands (Lock (· = before) : Assertion (handOver suspending)) (enterManaged polls)
      (fun _ => Lock (· = true)) fun _ => Lock fun held => before = true → held = true := by
  unfold enterManaged
  refine Spec.bind (acquire_spec before) fun _ => ?_
  have fails : ∀ held : Bool, held = true → before = true → held = true := fun _ held _ => held
  refine steady_bind (stopManagedDomain_steady polls) fails fun _ => ?_
  refine steady_bind (run_steady (by trivial)) fails fun _ => ?_
  refine steady_bind (stopAndWait_steady polls _) fails fun _ => steady_bind (stopAndWait_steady polls _) fails fun _ => ?_
  refine steady_bind (only_outcome (run_steady (by trivial))) fails fun _ => ?_
  exact (steady_keeps (run_steady (by trivial))).weaken (fun _ h => h) (fun _ _ h => h) fun _ s => fails s.held

theorem waitWakeupSourcesQuiet_steady (polls : Nat) : Only (@Command.steady) (waitWakeupSourcesQuiet polls) := by
  induction polls with
  | zero =>
    unfold waitWakeupSourcesQuiet
    refine only_bind (ask_steady trivial) fun sources => ?_
    split
    · exact only_pure ()
    · exact only_pure ()
    · exact only_bind (ask_steady trivial) fun _ => only_throw _
  | succ polls ih =>
    unfold waitWakeupSourcesQuiet
    refine only_bind (ask_steady trivial) fun sources => ?_
    split
    · exact only_pure ()
    · exact only_pure ()
    · exact ih

theorem awaitSuspend_steady (baseline polls : Nat) : Only (@Command.steady) (awaitSuspend baseline polls) := by
  induction polls with
  | zero =>
    unfold awaitSuspend
    refine only_bind (run_steady trivial) fun _ => only_ite (fun _ => only_pure ()) fun _ => ?_
    refine only_bind (only_outcome (run_steady trivial)) fun names => ?_
    split <;> exact only_bind (ask_steady trivial) fun _ => only_throw _
  | succ polls ih =>
    unfold awaitSuspend
    refine only_bind (run_steady trivial) fun _ => only_ite (fun _ => only_pure ()) fun _ => ?_
    refine only_bind (only_outcome (run_steady trivial)) fun names => ?_
    split
    · exact ih
    · exact only_bind (ask_steady trivial) fun _ => only_throw _

/-- The wake lock is let go for a suspend that ends well, and whatever happens it is not taken. -/
theorem suspend_spec (settles polls : Nat) (before : Bool) :
    Spec commands (Lock (· = before) : Assertion (handOver True)) (suspend settles polls)
      (fun _ => Lock (· = false)) fun _ => Lock fun held => held = true → before = true := by
  have fails : ∀ held : Bool, held = before → held = true → before = true := fun _ same held => same ▸ held
  unfold suspend
  refine steady_bind (run_steady (by trivial)) fails fun mode => ?_
  refine steady_bind (Programs.Job.only_require _ _) fails fun _ => ?_
  refine steady_bind (run_steady (by trivial)) fails fun names => ?_
  split
  · refine steady_bind (run_steady (by trivial)) fails fun baseline => ?_
    refine steady_bind (waitWakeupSourcesQuiet_steady settles) fails fun _ => ?_
    refine Spec.bind (M := fun _ => Lock (· = false)) (Programs.Job.spec_try ?_) fun _ => ?_
    · rintro s rfl _ reply _
      refine ⟨fun _ => .inl trivial, ?_⟩
      cases ok : reply.ok <;> simp [commands, Command.exec, answer, ok, Lock]
      intro held _
      exact held
    · exact (steady_keeps (awaitSuspend_steady baseline polls)).weaken (fun _ h => h) (fun _ _ h => h)
        fun _ s gone held => (by rw [show s.held = false from gone] at held; cases held)
  · exact Programs.Job.spec_throw fun s => fails s.held

end

end Remagic.SystemController
