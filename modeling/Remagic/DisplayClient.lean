import Remagic.HostReports
import Remagic.Tasks

/-!
# The daemon as a client of the display host

The daemon asks the host to do something, and then asks for snapshots until one of
them shows that it was done. Each step of such a call says what the host's threads do
before it, and the connection may fail in it. The host serves one control request at a
time: while it serves this one, only its other threads go on, also between two fields
of a snapshot.
-/

namespace Remagic.Display
open Tasks DisplayHost

/-! ## The control connection -/

/-- What the thread of the control connection does. -/
def HostEvent.control : HostEvent → Bool
  | .setForeground _ _ _ _ | .prepareForeground _ _ _ | .activateForeground _ _ _ _ _ | .clearForeground
  | .configureInk _ _ _ _ _ | .requestFullRefresh | .showLock _ _ _ _ | .refreshLock _ | .cancelLock _ _
  | .acknowledged | .timedOut | .inject _ _ | .shutdown => true
  | _ => false

/-- What a step of a call meets: what the host does before it, and how the connection fails. -/
structure Exchange where
  meanwhile : List HostEvent := []
  fault : Option String := none

/-- What the host's other threads do before the step. -/
def Exchange.others (answer : Exchange) : List HostEvent := answer.meanwhile.filter fun event => !event.control

/-- A call of the daemon. It leaves what the host does in each of its steps. -/
abbrev Call := Job DisplayHost Exchange (List HostEvent) String

namespace Call
variable {α : Type}

/-- One step of a call: what the host does, and what the daemon has of it. -/
def turn (events : Exchange → DisplayHost → List HostEvent) (result : Exchange → DisplayHost → Except String α) : Call α :=
  ExceptT.mk (Task.step (fun answer s => (result answer s, (events answer s).foldl next s))
    fun answer s => some (events answer s))

/-- The connection brings the request or the reply. -/
def carry : Call Unit := turn (fun answer _ => answer.meanwhile) fun answer _ => answer.fault.elim (.ok ()) .error

def timedOut : String := "display host command timed out"

/-- The host takes up a request when no operation is under way. -/
def free : Call Unit := turn (fun _ _ => []) fun _ s => if s.foregroundOps.isSome then .error timedOut else .ok ()

def reply (s : DisplayHost) (event : HostEvent) : Except IoError Unit :=
  (s.operation event).elim (.ok ()) fun operation => (operation.run s.host).1

/-- `dispatch`, until the operation ends or waits for the panel. -/
def dispatch (event : HostEvent) : Call (Except IoError Unit) := turn (fun _ _ => [event]) fun _ s => .ok (reply s event)

def late : HostState.Waiting → IoError
  | .lockCancellation _ => ⟨.timedOut, "panel did not acknowledge lock cancellation"⟩
  | .inkPolicy _ _ => ⟨.timedOut, "panel did not acknowledge the direct-ink policy"⟩

/-- The panel has acknowledged what the operation waits for. -/
def acknowledges (s : DisplayHost) : Bool := (s.next .acknowledged).foregroundOps.isNone

/-- The wait for the panel, if the operation waits. -/
def await : Call (Except IoError Unit) :=
  turn
    (fun answer s =>
      if s.foregroundOps.isNone then []
      else answer.others ++ [if acknowledges (answer.others.foldl next s) then .acknowledged else .timedOut])
    fun answer s => .ok (s.foregroundOps.elim (.ok ()) fun waiting =>
      if acknowledges (answer.others.foldl next s) then .ok () else .error (late waiting))

def raise : Except IoError Unit → Call Unit
  | .ok _ => pure ()
  | .error error => throw error.message

def request (event : HostEvent) : Call Unit := do
  carry
  free
  let dispatched ← dispatch event
  let waited ← await
  carry
  raise (dispatched *> waited)

/-! ## Snapshots -/

/-- The fields of the host's snapshot that the daemon reads. -/
structure Snapshot where
  surfaces : Int → Bool
  surfaceSequences : Int → Option Nat
  surfaceSignatures : Int → Option UInt64
  foregroundKey : Option Int
  generation : Nat
  foregroundEpoch : Nat
  inkEnabled : Bool
  lockEpoch : Nat
  lockCommitted : Bool
  panelFailureCount : Nat
  lastPresentedKey : Option Int
  lastPresentedSequence : Nat
  recentSubmissions : List SubmissionRecord

/-- `surface_signature`: the FNV hash of every 32nd byte of every 16th row. -/
def surfaceSignature (surface : SharedSurface) : UInt64 :=
  let rowBytes := surface.width.toNat * surface.format.bytesPerPixel
  let rows := (List.range surface.height.toNat).filter fun y => y % 16 = 0
  let hash := rows.foldl (fun hash y =>
    let start := y * surface.stride
    let stop := min (start + rowBytes) surface.bytes.size
    ((List.range (stop - start)).filter fun offset => offset % 32 = 0).foldl (fun hash offset =>
      (hash ^^^ (surface.bytes.getD (start + offset) 0).toUInt64) * 0x100000001b3) hash) 0xcbf29ce484222325
  hash ^^^ (UInt64.ofInt surface.width <<< 32) ^^^ UInt64.ofInt surface.height

/-- One of the fields is read: the other threads may have gone on since the last. -/
def look (read : DisplayHost → α) : Call α :=
  turn (fun answer _ => answer.others) fun answer s => .ok (read (answer.others.foldl next s))

/-- What is told of each registered surface. -/
def surfaceTable (tell : SharedSurface → α) (s : DisplayHost) (key : Int) : Option α :=
  (s.host.surfaces key).map fun entry => tell (s.shm entry.shmKey)

/-- The snapshot made of the fields as they were read. -/
def Snapshot.of (requestedForeground : Option ForegroundLease) (lock : Option LockLease) (foreground : Option PanelLease)
    (panelFailureCount : Nat) (lastPresented : Option (Int × Nat)) (surfaces : Int → Option Unit)
    (surfaceSequences : Int → Option Nat) (surfaceSignatures : Int → Option UInt64)
    (committedInk : Option (PanelLease × Bool)) (committedLockEpoch : Nat) (recentSubmissions : List SubmissionRecord) :
    Snapshot where
  surfaces := fun key => (surfaces key).isSome
  surfaceSequences := surfaceSequences
  surfaceSignatures := surfaceSignatures
  foregroundKey := foreground.map PanelLease.key
  generation := (foreground.map PanelLease.generation).getD 0
  foregroundEpoch := (foreground.map PanelLease.foregroundEpoch).getD 0
  inkEnabled := foreground.any fun committed => requestedForeground.any fun requested =>
    requested.panelLease = committed && requested.inkEnabled && committedInk = some (committed, true)
  lockEpoch := (lock.map LockLease.sleepEpoch).getD 0
  lockCommitted := lock.any fun lock => committedLockEpoch = lock.sleepEpoch &&
    foreground = some lock.foreground.panelLease && requestedForeground = some lock.foreground
  panelFailureCount := panelFailureCount
  lastPresentedKey := lastPresented.map Prod.fst
  lastPresentedSequence := (lastPresented.map Prod.snd).getD 0
  recentSubmissions := recentSubmissions

def snapshot : Call Snapshot := do
  let requestedForeground ← look fun s => s.host.foreground
  let lock ← look fun s => s.host.lock
  let foreground ← look fun s => s.worker.telemetry.committedForeground
  let panelFailureCount ← look fun s => s.worker.telemetry.failureCount
  let lastPresented ← look fun s => s.worker.telemetry.lastPresented
  let surfaces ← look (surfaceTable fun _ => ())
  let surfaceSequences ← look (surfaceTable SharedSurface.commitSequence)
  let surfaceSignatures ← look (surfaceTable surfaceSignature)
  let committedInk ← look fun s => s.worker.telemetry.committedInk
  let committedLockEpoch ← look fun s => s.worker.telemetry.committedLockEpoch
  let recentSubmissions ← look fun s => s.worker.telemetry.recentSubmissions
  pure (.of requestedForeground lock foreground panelFailureCount lastPresented surfaces surfaceSequences
    surfaceSignatures committedInk committedLockEpoch recentSubmissions)

def status : Call Snapshot := do
  carry
  free
  let snapshot ← snapshot
  carry
  pure snapshot

namespace Snapshot
variable (snapshot : Snapshot)

def lastSubmissionSequence : Nat := (snapshot.recentSubmissions.getLast?.map SubmissionRecord.sequence).getD 0

def signed (key : Int) : Bool := (snapshot.surfaceSignatures key).getD 0 ≠ 0

def matchesForeground (key : Int) (generation epoch : Nat) : Bool :=
  snapshot.foregroundKey = some key && snapshot.generation = generation && snapshot.foregroundEpoch = epoch

def hasPresented (key : Int) (generation epoch : Nat) : Bool :=
  snapshot.matchesForeground key generation epoch && snapshot.lastPresentedKey = some key &&
    snapshot.lastPresentedSequence > 0 && snapshot.signed key

/-- A submission after the baseline that the panel took, of the lease, from a commit. -/
def submitted (baseline : Nat) (lease : PanelLease) (intents : List RefreshIntent) (reason : SubmissionReason)
    (sequence : Nat) : Bool :=
  snapshot.recentSubmissions.any fun submission =>
    submission.sequence > baseline && submission.lease = lease && submission.intent ∈ intents &&
      submission.reason = reason && submission.surfaceSequence ≥ sequence && submission.visibleSignature ≠ 0 &&
      submission.success && submission.marker.isSome

end Snapshot

/-! ## Waiting -/

/-- What a snapshot means for who waits: an error, the end, or another look. -/
abbrev Verdict (α : Type) := Except String (Option α)

def obey (again : Call α) : Verdict α → Call α
  | .error message => throw message
  | .ok (some result) => pure result
  | .ok none => again

/-- Ask for snapshots until one of them decides, as often as the deadline allows. -/
def poll (judge : Snapshot → Verdict α) (late : Snapshot → String) : Nat → Call α
  | 0 => do
    let snapshot ← status
    obey (throw (late snapshot)) (judge snapshot)
  | polls + 1 => do
    let snapshot ← status
    obey (poll judge late polls) (judge snapshot)

/-- An error after a failure of the panel, else whether it is done. -/
def unlessFailing (failures : Nat) (message : Snapshot → String) (done : Snapshot → Verdict α) (snapshot : Snapshot) :
    Verdict α :=
  if snapshot.panelFailureCount > failures then .error (message snapshot) else done snapshot

def once (done : Bool) (result : α) : Verdict α := .ok (if done then some result else none)

/-! ## The calls -/

def waitSurfaceSequence (polls : Nat) (key : Int) (expectedSequence : Nat) : Call Snapshot :=
  poll
    (fun snapshot => once (snapshot.surfaces key && (snapshot.surfaceSequences key).getD 0 ≥ expectedSequence &&
      snapshot.signed key) snapshot)
    (fun snapshot => s!"surface {key} did not commit lock sequence {expectedSequence}; observed {(snapshot.surfaceSequences key).getD 0}")
    polls

def waitForForegroundSubmission (polls baselineSequence baselineFailures : Nat) (key : Int) (generation epoch : Nat)
    (fullRefresh : Bool) : Call Snapshot :=
  poll
    (unlessFailing baselineFailures
      (fun snapshot => s!"display host reported a new panel submission failure ({baselineFailures} -> {snapshot.panelFailureCount})")
      fun snapshot => once (snapshot.hasPresented key generation epoch && snapshot.submitted baselineSequence
        ⟨key, generation, epoch⟩ (if fullRefresh then [.full] else [.monoQuality, .content]) .foregroundSwitch 1) snapshot)
    (fun _ => s!"display host did not present foreground key={key} generation={generation} epoch={epoch}")
    polls

def setForeground (polls : Nat) (key : Int) (generation epoch : Nat) (fullRefresh : Bool) : Call Unit := do
  let baseline ← status
  request (.setForeground key generation epoch fullRefresh)
  let _ ← waitForForegroundSubmission polls baseline.lastSubmissionSequence baseline.panelFailureCount key generation
    epoch fullRefresh
  pure ()

def prepareForeground (key : Int) (generation epoch : Nat) : Call Unit :=
  request (.prepareForeground key generation epoch)

def activateForeground (polls : Nat) (key : Int) (generation epoch : Nat) (inkEnabled fullRefresh : Bool) : Call Unit := do
  let baseline ← status
  request (.activateForeground key generation epoch inkEnabled fullRefresh)
  let snapshot ← waitForForegroundSubmission polls baseline.lastSubmissionSequence baseline.panelFailureCount key
    generation epoch fullRefresh
  if snapshot.inkEnabled ≠ inkEnabled then
    throw s!"display host committed foreground without its ink policy: expected={inkEnabled} actual={snapshot.inkEnabled}"

def clearForeground (polls : Nat) : Call Unit := do
  request .clearForeground
  poll (fun snapshot => once snapshot.foregroundKey.isNone ())
    (fun snapshot => s!"display host retained committed foreground key {repr snapshot.foregroundKey} after clear") polls

def configureInk (key : Int) (generation epoch : Nat) (enabled : Bool) : Call Unit := do
  request (.configureInk key generation epoch enabled none)
  let snapshot ← status
  if !(snapshot.matchesForeground key generation epoch && snapshot.inkEnabled = enabled) then
    throw s!"display host did not retain ink fence key={key} generation={generation} epoch={epoch} enabled={enabled}"

def lockIsCommittedAs (snapshot : Snapshot) (key : Int) (generation epoch sleepEpoch : Nat) : Bool :=
  snapshot.lockEpoch = sleepEpoch && snapshot.lockCommitted && snapshot.matchesForeground key generation epoch

def waitForLockSubmission (polls baseline baselineFailures : Nat) (key : Int) (generation epoch sleepEpoch : Nat) :
    Call Unit :=
  poll
    (unlessFailing baselineFailures
      (fun _ => s!"display host reported a new panel failure while committing lock epoch {sleepEpoch}")
      fun snapshot =>
        if snapshot.lockEpoch = sleepEpoch && snapshot.lockCommitted &&
            snapshot.submitted baseline ⟨key, generation, epoch⟩ [.full] .lockScreen 1 then .ok (some ())
        else if snapshot.panelFailureCount > 0 then
          .error s!"display host reported {snapshot.panelFailureCount} panel submission failure(s) while presenting lock"
        else .ok none)
    (fun _ => s!"display host did not commit lock epoch {sleepEpoch} (lock_screen)")
    polls

def showLock (polls : Nat) (key : Int) (generation epoch sleepEpoch : Nat) : Call Unit := do
  let before ← status
  request (.showLock key generation epoch sleepEpoch)
  let current ← status
  if lockIsCommittedAs current key generation epoch sleepEpoch then pure ()
  else waitForLockSubmission polls before.lastSubmissionSequence before.panelFailureCount key generation epoch sleepEpoch

def cancelLock (polls sleepEpoch replacementSurfaceSequence : Nat) : Call Unit := do
  let before ← status
  if before.lockEpoch ≠ sleepEpoch ∨ before.lockCommitted = false then
    throw s!"display host has no committed lock epoch {sleepEpoch} to replace"
  match before.foregroundKey with
  | none => throw "display lock has no foreground surface"
  | some key =>
    request (.cancelLock sleepEpoch replacementSurfaceSequence)
    poll
      (unlessFailing before.panelFailureCount
        (fun _ => s!"display host reported a new panel failure while unlocking epoch {sleepEpoch}")
        fun snapshot => once (snapshot.lockEpoch = 0 && snapshot.submitted before.lastSubmissionSequence
          ⟨key, before.generation, before.foregroundEpoch⟩ [.full] .unlockScreen replacementSurfaceSequence) ())
      (fun _ => s!"display host retained lock epoch {sleepEpoch} after cancellation")
      polls

end Call
end Remagic.Display
