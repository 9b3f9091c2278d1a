import Mathlib.Data.List.DropRight
import Remagic.AppIds

/-!
# Events from the daemon to Home

Each event is a line of text in a datagram of its own. Home reads a datagram into a buffer
of a fixed size: what does not fit is cut off by the kernel.
-/

namespace Remagic.HomeEvents

inductive Event where
  | autoSleep
  | coverSleep (appId : Option AppId)
  | resumeUnlock (appId : Option AppId)
  | wallpapersChanged
  deriving DecidableEq

/-! ## The sender -/

/-- What the daemon tells Home: when the manager is to sleep by itself, when the cover closes or
    opens, and when the power key wakes a locked device. -/
inductive Notice where
  | autoSleep
  | coverClosed (app : Option AppId)
  | coverOpened (app : Option AppId)
  | resumeUnlock

/-- All texts are ASCII, so that a byte of a datagram is a character. -/
def Notice.text : Notice → String
  | .autoSleep => "auto_sleep\n"
  | .coverClosed none => "cover_sleep\n"
  | .coverClosed (some app) => "cover_sleep_app " ++ app.value ++ "\n"
  | .coverOpened none => "cover_open\n"
  | .coverOpened (some app) => "cover_open_app " ++ app.value ++ "\n"
  | .resumeUnlock => "resume_unlock\n"

/-- The event that the notice stands for. -/
def Notice.event : Notice → Event
  | .autoSleep => .autoSleep
  | .coverClosed app => .coverSleep app
  | .coverOpened app => .resumeUnlock app
  | .resumeUnlock => .resumeUnlock none

/-! ## The receiver -/

/-- `split_once`. -/
def splitOnce (c : Char) : List Char → Option (List Char × List Char)
  | [] => none
  | d :: rest => if d = c then some ([], rest) else (splitOnce c rest).map fun (before, after) => (d :: before, after)

/-- `trim_end_matches` of the end of a line. -/
def trimEnd (text : List Char) : List Char := text.rdropWhile (· == '\n')

def parseEvent (packet : List Char) : Option Event :=
  match splitOnce ' ' (trimEnd packet) with
  | none => none
  | some (command, value) =>
    match AppId.new (String.ofList value) with
    | .error _ => none
    | .ok appId =>
      if command = "cover_sleep_app".toList then some (.coverSleep (some appId))
      else if command = "cover_open_app".toList ∨ command = "resume_unlock_app".toList then some (.resumeUnlock (some appId))
      else none

def packetSize : Nat := 64

/-- What one datagram in the buffer says. -/
def readPacket (packet : List Char) : Option Event :=
  if packet = "auto_sleep\n".toList then some .autoSleep
  else if packet = "resume_unlock\n".toList then some (.resumeUnlock none)
  else if packet = "cover_sleep\n".toList then some (.coverSleep none)
  else if packet = "cover_open\n".toList then some (.resumeUnlock none)
  else if packet = "wallpapers_changed\n".toList then some .wallpapersChanged
  else parseEvent packet

/-- `Receiver::drain`, of the datagrams that have arrived. -/
def drain (datagrams : List (List Char)) : List Event := datagrams.filterMap fun datagram => readPacket (datagram.take packetSize)

/-! ## One datagram -/

theorem splitOnce_append {c : Char} {before : List Char} (clear : c ∉ before) (after : List Char) :
    splitOnce c (before ++ c :: after) = some (before, after) := by
  induction before with
  | nil => simp [splitOnce]
  | cons d rest ih =>
    obtain ⟨first, clear⟩ := not_or.mp (mt List.mem_cons.mpr clear)
    rw [List.cons_append, splitOnce, if_neg (Ne.symm first), ih clear]
    rfl

theorem other_text {head fixed : List Char} (k : Nat) (within : k ≤ head.length) (differs : head.take k ≠ fixed.take k)
    (rest : List Char) : head ++ rest ≠ fixed := by
  rintro rfl
  exact differs (List.take_append_of_le_length within).symm

theorem idByte_newline : idByte '\n' = false := by decide

theorem appId_no_newline (app : AppId) : '\n' ∉ app.value.toList := by
  intro member
  have valid := app.valid
  simp only [validId, Bool.and_eq_true] at valid
  have byte := List.all_eq_true.mp valid.1.1.2 '\n' member
  rw [idByte_newline] at byte
  cases byte

theorem trimEnd_clear {text : List Char} (clear : '\n' ∉ text) : trimEnd text = text := by
  refine List.rdropWhile_eq_self_iff.mpr fun filled ends => clear ?_
  have last : text.getLast filled = '\n' := by simpa using ends
  exact last ▸ List.getLast_mem filled

/-- Whether or not the end of the line was cut off. -/
theorem trimEnd_cut {head id : List Char} (clear : '\n' ∉ head) (plain : '\n' ∉ id) (room : Nat) :
    trimEnd (head ++ (id ++ ['\n']).take room) = head ++ id.take room := by
  have whole : '\n' ∉ head ++ id.take room := fun member =>
    (List.mem_append.mp member).elim clear fun later => plain (List.mem_of_mem_take later)
  by_cases ended : id.length < room
  · rw [List.take_of_length_le (by rw [List.length_append, List.length_singleton]; exact ended), ← List.append_assoc]
    rw [List.take_of_length_le (Nat.le_of_lt ended)] at whole ⊢
    rw [trimEnd, List.rdropWhile_concat_pos _ _ _ rfl]
    exact trimEnd_clear whole
  · rw [List.take_append_of_le_length (Nat.le_of_not_lt ended)]
    exact trimEnd_clear whole

/-- What is left of a notice that names an application, when `room` characters of its line's rest fit. -/
theorem parseEvent_cut {command : List Char} (spaceless : ' ' ∉ command) (clear : '\n' ∉ command) (app : AppId) (room : Nat) :
    parseEvent (command ++ ' ' :: (app.value.toList ++ ['\n']).take room) =
      match AppId.new (String.ofList (app.value.toList.take room)) with
      | .error _ => none
      | .ok appId =>
        if command = "cover_sleep_app".toList then some (.coverSleep (some appId))
        else if command = "cover_open_app".toList ∨ command = "resume_unlock_app".toList then some (.resumeUnlock (some appId))
        else none := by
  have headed : '\n' ∉ command ++ [' '] := fun member =>
    (List.mem_append.mp member).elim clear fun later => absurd (List.mem_singleton.mp later) (by decide)
  have trimmed := trimEnd_cut headed (appId_no_newline app) room
  rw [List.append_assoc, List.append_assoc, List.singleton_append, List.singleton_append] at trimmed
  rw [parseEvent, trimmed, splitOnce_append spaceless]

theorem new_self (app : AppId) : AppId.new app.value = .ok app := by
  unfold AppId.new
  rw [dif_pos app.valid]

/-- A name that was cut names its application only if nothing is missing. -/
theorem new_cut {app found : AppId} {room : Nat} (named : AppId.new (String.ofList (app.value.toList.take room)) = .ok found) :
    found = app ↔ app.value.length ≤ room := by
  unfold AppId.new at named
  split at named
  · cases named
    constructor
    · intro same
      have value := congrArg (fun id : AppId => id.value.toList.length) same
      simp only [String.toList_ofList, List.length_take, String.length_toList] at value
      omega
    · intro fits
      have whole : app.value.toList.take room = app.value.toList :=
        List.take_of_length_le (by rw [String.length_toList]; exact fits)
      cases app
      simp only [AppId.mk.injEq]
      rw [whole, String.ofList_toList]
  · cases named

/-- The notice's line fits, or nothing but its end is cut off. -/
def Notice.Fits : Notice → Prop
  | .coverClosed (some app) => app.value.length ≤ 48
  | .coverOpened (some app) => app.value.length ≤ 49
  | _ => True

/-- Home takes the notice for the event that it stands for. -/
def Notice.Arrives (notice : Notice) : Prop := readPacket (notice.text.toList.take packetSize) = some notice.event

theorem closed_text (app : AppId) : (Notice.coverClosed (some app)).text.toList.take packetSize =
    "cover_sleep_app".toList ++ ' ' :: (app.value.toList ++ ['\n']).take 48 := by
  show (("cover_sleep_app " ++ app.value ++ "\n").toList).take 64 = _
  rw [String.toList_append, String.toList_append, List.append_assoc]
  rfl

theorem opened_text (app : AppId) : (Notice.coverOpened (some app)).text.toList.take packetSize =
    "cover_open_app".toList ++ ' ' :: (app.value.toList ++ ['\n']).take 49 := by
  show (("cover_open_app " ++ app.value ++ "\n").toList).take 64 = _
  rw [String.toList_append, String.toList_append, List.append_assoc]
  rfl

theorem readPacket_named {command : List Char} (long : 12 ≤ command.length)
    (differs : ∀ fixed ∈ ["auto_sleep\n", "resume_unlock\n", "cover_sleep\n", "cover_open\n", "wallpapers_changed\n"],
      command.take 12 ≠ fixed.toList.take 12) (rest : List Char) :
    readPacket (command ++ rest) = parseEvent (command ++ rest) := by
  have other (fixed : String)
      (listed : fixed ∈ ["auto_sleep\n", "resume_unlock\n", "cover_sleep\n", "cover_open\n", "wallpapers_changed\n"]) :
      command ++ rest ≠ fixed.toList := other_text 12 long (differs fixed listed) rest
  unfold readPacket
  rw [if_neg (other _ (by simp)), if_neg (other _ (by simp)), if_neg (other _ (by simp)), if_neg (other _ (by simp)),
    if_neg (other _ (by simp))]

/-- A notice that names an application arrives if and only if the whole name fits. -/
theorem named_arrives {command : List Char} {make : AppId → Event} (injective : Function.Injective make)
    (spaceless : ' ' ∉ command) (clear : '\n' ∉ command) (long : 12 ≤ command.length)
    (differs : ∀ fixed ∈ ["auto_sleep\n", "resume_unlock\n", "cover_sleep\n", "cover_open\n", "wallpapers_changed\n"],
      command.take 12 ≠ fixed.toList.take 12)
    (means : ∀ appId, (if command = "cover_sleep_app".toList then some (Event.coverSleep (some appId))
      else if command = "cover_open_app".toList ∨ command = "resume_unlock_app".toList then
        some (Event.resumeUnlock (some appId))
      else none) = some (make appId)) (app : AppId) (room : Nat) :
    readPacket (command ++ ' ' :: (app.value.toList ++ ['\n']).take room) = some (make app) ↔ app.value.length ≤ room := by
  rw [readPacket_named long differs, parseEvent_cut spaceless clear]
  constructor
  · intro read
    split at read
    · cases read
    · rename_i found named
      rw [means found] at read
      exact (new_cut named).mp (injective (Option.some.inj read))
  · intro fits
    have whole : app.value.toList.take room = app.value.toList :=
      List.take_of_length_le (by rw [String.length_toList]; exact fits)
    rw [whole, String.ofList_toList, new_self]
    exact means app

theorem arrives_iff (notice : Notice) : notice.Arrives ↔ notice.Fits := by
  unfold Notice.Arrives
  cases notice with
  | autoSleep => exact ⟨fun _ => trivial, fun _ => rfl⟩
  | resumeUnlock => exact ⟨fun _ => trivial, fun _ => rfl⟩
  | coverClosed app =>
    cases app with
    | none => exact ⟨fun _ => trivial, fun _ => rfl⟩
    | some app =>
      rw [closed_text]
      exact @named_arrives _ (fun id => .coverSleep (some id)) (fun _ _ same => Option.some.inj (Event.coverSleep.inj same))
        (by decide) (by decide) (by decide) (by decide) (fun _ => rfl) app 48
  | coverOpened app =>
    cases app with
    | none => exact ⟨fun _ => trivial, fun _ => rfl⟩
    | some app =>
      rw [opened_text]
      exact @named_arrives _ (fun id => .resumeUnlock (some id))
        (fun _ _ same => Option.some.inj (Event.resumeUnlock.inj same)) (by decide) (by decide) (by decide) (by decide)
        (fun _ => rfl) app 49

/-! ## All of them -/

/-- What arrives in place of items, none of which may be left out, is each item's own. -/
theorem filterMap_eq_map {α β : Type} {read : α → Option β} {means : α → β} {items : List α} :
    items.filterMap read = items.map means ↔ ∀ item ∈ items, read item = some (means item) := by
  induction items with
  | nil => simp
  | cons item rest ih =>
    cases first : read item with
    | none =>
      constructor
      · intro same
        have short := List.length_filterMap_le read rest
        have long := congrArg List.length same
        rw [List.filterMap_cons_none first, List.map_cons, List.length_cons, List.length_map] at long
        omega
      · intro each
        have absurd := first.symm.trans (each item List.mem_cons_self)
        cases absurd
    | some value =>
      rw [List.filterMap_cons_some first, List.map_cons, List.cons.injEq, ih, List.forall_mem_cons, first, Option.some.injEq]

/-- What the daemon tells is what Home hears, each notice once and in order, if and only if every
    application that is named leaves room for its name in the buffer. -/
theorem drain_hears_iff (notices : List Notice) :
    drain (notices.map fun notice => notice.text.toList) = notices.map Notice.event ↔ ∀ notice ∈ notices, notice.Fits := by
  rw [drain, List.filterMap_map, filterMap_eq_map]
  exact forall₂_congr fun notice _ => arrives_iff notice

theorem long_valid : validId ("".pushn 'a' 64) = true := by decide

/-- An application with an identifier of the greatest length. -/
def longApp : AppId := ⟨"".pushn 'a' 64, long_valid⟩

theorem cut_valid : validId ("".pushn 'a' 48) = true := by decide

/-- The cover is closed over an application with a long name: Home hears of another one. -/
theorem long_name_misattributed :
    drain [(Notice.coverClosed (some longApp)).text.toList] = [.coverSleep (some ⟨"".pushn 'a' 48, cut_valid⟩)] ∧
      Event.coverSleep (some ⟨"".pushn 'a' 48, cut_valid⟩) ≠ (Notice.coverClosed (some longApp)).event := by
  decide +kernel

end Remagic.HomeEvents
