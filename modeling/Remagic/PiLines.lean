import Mathlib.Data.List.TakeWhile
import Mathlib.Tactic.Common
import Remagic.Runs

/-!
# Lines from Pi

The service reads the output of its Pi process line by line. A read gathers the line in a
buffer of its own and takes what it has gathered out of the stream at once, so that a read
that is given up before its line has ended takes the beginning of the line with it.
-/

namespace Remagic.Pi

def maxRpcLineBytes : Nat := 1024 * 1024

def newline : UInt8 := 10

def carriageReturn : UInt8 := 13

inductive LineError where
  | tooLong
  | notUtf8
  deriving DecidableEq

/-- A line's bytes, without a carriage return at their end. -/
def dropReturn (raw : List UInt8) : List UInt8 := if raw.getLast? = some carriageReturn then raw.dropLast else raw

/-- What `next_rpc_line` returns of a line's content. -/
def decodeLine (raw : List UInt8) : Except LineError String :=
  if raw.length > maxRpcLineBytes then .error .tooLong
  else match String.fromUTF8? ⟨(dropReturn raw).toArray⟩ with
    | some line => .ok line
    | none => .error .notUtf8

/-! ## The lines of a stream -/

/-- The lines of a stream that has ended. -/
def rpcLines (stream : List UInt8) : List (List UInt8) :=
  let parts := stream.splitOn newline
  if parts.getLast? = some [] then parts.dropLast else parts

theorem rpcLines_nil : rpcLines [] = [] := rfl

variable {raw : List UInt8}

theorem rpcLines_line (clear : newline ∉ raw) (rest : List UInt8) :
    rpcLines (raw ++ newline :: rest) = raw :: rpcLines rest := by
  have parts : (raw ++ newline :: rest).splitOn newline = raw :: rest.splitOn newline := by
    rw [List.splitOn_append_cons_self, List.splitOn_eq_singleton clear, List.singleton_append]
  have some : rest.splitOn newline ≠ [] := List.splitOn_ne_nil newline rest
  unfold rpcLines
  rw [parts]
  simp only [List.getLast?_cons_of_ne_nil some, List.dropLast_cons_of_ne_nil some]
  split
  · rfl
  · rfl

theorem rpcLines_last (clear : newline ∉ raw) (filled : raw ≠ []) : rpcLines raw = [raw] := by
  unfold rpcLines
  rw [List.splitOn_eq_singleton clear]
  exact if_neg fun empty => filled (Option.some.inj empty)

/-- The first line goes on from its beginning. -/
theorem rpcLines_begins (clear : newline ∉ raw) (filled : raw ≠ []) (rest : List UInt8) :
    ∃ more others, rpcLines (raw ++ rest) = (raw ++ more) :: others := by
  by_cases ends : newline ∈ rest
  · obtain ⟨more, later, rfl, open'⟩ := List.eq_append_cons_of_mem ends
    refine ⟨more, rpcLines later, ?_⟩
    rw [← List.append_assoc]
    exact rpcLines_line (fun member => (List.mem_append.mp member).elim clear open') later
  · refine ⟨rest, [], rpcLines_last (fun member => (List.mem_append.mp member).elim clear ends) ?_⟩
    exact fun empty => filled (List.append_eq_nil_iff.mp empty).1

/-! ## One read -/

inductive Poll where
  | line (raw : List UInt8) (rest : List (List UInt8))
  /-- The stream ends within a line. -/
  | last (raw : List UInt8)
  | ended
  | tooLong (raw : List UInt8)
  /-- Nothing is left of what has arrived, all of which is in the read's own buffer. -/
  | pending (bytes : List UInt8)
  deriving DecidableEq

/-- `next_rpc_line`, from what it has gathered so far, over the chunks that `fill_buf` gives: it
    takes each from the stream as it goes. -/
def pollLine (closed : Bool) (bytes : List UInt8) : List (List UInt8) → Poll
  | [] => if !closed then .pending bytes else if bytes = [] then .ended else .last bytes
  | chunk :: rest =>
    let content := chunk.takeWhile (· ≠ newline)
    if bytes.length + content.length > maxRpcLineBytes then .tooLong (bytes ++ content)
    else match chunk.dropWhile (· ≠ newline) with
      | [] => pollLine closed (bytes ++ content) rest
      | _ :: after => .line (bytes ++ content) (after :: rest)

/-- What a read has to do with the stream before it. -/
inductive Polled (closed : Bool) (stream : List UInt8) : Poll → Prop where
  | line {raw : List UInt8} {rest : List (List UInt8)} (clear : newline ∉ raw) (short : raw.length ≤ maxRpcLineBytes)
      (same : stream = raw ++ newline :: rest.flatten) : Polled closed stream (.line raw rest)
  | last {raw : List UInt8} (shut : closed = true) (clear : newline ∉ raw) (short : raw.length ≤ maxRpcLineBytes)
      (filled : raw ≠ []) (same : stream = raw) : Polled closed stream (.last raw)
  | ended (shut : closed = true) (same : stream = []) : Polled closed stream .ended
  | tooLong {raw : List UInt8} (more : List UInt8) (clear : newline ∉ raw) (long : maxRpcLineBytes < raw.length)
      (same : stream = raw ++ more) : Polled closed stream (.tooLong raw)
  | pending {bytes : List UInt8} (clear : newline ∉ bytes) (short : bytes.length ≤ maxRpcLineBytes) (same : stream = bytes) :
      Polled closed stream (.pending bytes)

theorem takeWhile_clear (chunk : List UInt8) : newline ∉ chunk.takeWhile (· ≠ newline) := by
  intro member
  have other := List.mem_takeWhile_imp member
  simp at other

theorem pollLine_polled (closed : Bool) {bytes : List UInt8} (clear : newline ∉ bytes)
    (short : bytes.length ≤ maxRpcLineBytes) (chunks : List (List UInt8)) :
    Polled closed (bytes ++ chunks.flatten) (pollLine closed bytes chunks) := by
  induction chunks generalizing bytes with
  | nil =>
    rw [List.flatten_nil, List.append_nil, pollLine]
    cases closed with
    | false => exact .pending clear short rfl
    | true =>
      by_cases empty : bytes = []
      · simp only [Bool.not_true, Bool.false_eq_true, if_false, if_pos empty]
        exact .ended rfl empty
      · simp only [Bool.not_true, Bool.false_eq_true, if_false, if_neg empty]
        exact .last rfl clear short empty rfl
  | cons chunk rest ih =>
    have parts : chunk.takeWhile (· ≠ newline) ++ chunk.dropWhile (· ≠ newline) = chunk := List.takeWhile_append_dropWhile
    have both : newline ∉ bytes ++ chunk.takeWhile (· ≠ newline) := fun member =>
      (List.mem_append.mp member).elim clear (takeWhile_clear chunk)
    rw [List.flatten_cons, pollLine]
    by_cases long : bytes.length + (chunk.takeWhile (· ≠ newline)).length > maxRpcLineBytes
    · simp only [if_pos long]
      refine .tooLong (chunk.dropWhile (· ≠ newline) ++ rest.flatten) both (by rw [List.length_append]; exact long) ?_
      rw [List.append_assoc, ← List.append_assoc (chunk.takeWhile _), parts]
    · have within : (bytes ++ chunk.takeWhile (· ≠ newline)).length ≤ maxRpcLineBytes := by
        rw [List.length_append]
        exact Nat.not_lt.mp long
      simp only [if_neg long]
      rcases dropped : chunk.dropWhile (· ≠ newline) with _ | ⟨first, after⟩
      · rw [dropped, List.append_nil] at parts
        have goes := ih both within
        rw [List.append_assoc] at goes
        simp only [parts] at goes ⊢
        exact goes
      · have ends : first = newline := by
          have left : chunk.dropWhile (· ≠ newline) ≠ [] := by
            rw [dropped]
            exact List.cons_ne_nil first after
          have stops := List.head_dropWhile_not (· ≠ newline) left
          simp only [dropped, List.head_cons] at stops
          simpa using stops
        subst ends
        refine .line both within ?_
        rw [dropped] at parts
        rw [List.flatten_cons, List.append_assoc, ← List.cons_append, ← List.append_assoc (chunk.takeWhile _), parts]

/-! ## Reads under a turn -/

/-- A turn's reading of the stream: `run_turn` processes the lines up to the cancel signal and
    `abort_turn` those after it. -/
structure Reading where
  /-- What the process has yet to write, in the pieces in which it will arrive. -/
  coming : List (List UInt8)
  arrived : List (List UInt8)
  closed : Bool
  /-- What the read under way holds in its buffer. -/
  gathered : List UInt8
  aborting : Bool
  turnLines : List (Except LineError String)
  abortLines : List (Except LineError String)
  /-- A read has failed or found the end. -/
  stopped : Bool

def start (chunks : List (List UInt8)) : Reading := ⟨chunks, [], false, [], false, [], [], false⟩

inductive Event where
  | arrives
  /-- The task runs: it polls the read, which goes on until it lacks bytes. -/
  | poll
  /-- The task finds the cancel signal: it gives the read up for `abort_turn`. -/
  | cancel
  deriving DecidableEq

namespace Reading

def lines (s : Reading) : List (Except LineError String) := s.turnLines ++ s.abortLines

/-- What is left of the stream, from the beginning of the read under way on. -/
def rest (s : Reading) : List UInt8 := s.gathered ++ (s.arrived.flatten ++ s.coming.flatten)

/-- A read has ended with a line or in an error, with which the turn ends. -/
def took (s : Reading) (line : Except LineError String) (rest : List (List UInt8)) : Reading :=
  { s with
    arrived := rest
    gathered := []
    turnLines := if s.aborting then s.turnLines else s.turnLines ++ [line]
    abortLines := if s.aborting then s.abortLines ++ [line] else s.abortLines
    stopped := !line.isOk }

/-- The next piece comes, or the end when there is none. -/
def arrive (s : Reading) : Reading :=
  match s.coming with
  | [] => { s with closed := true }
  | chunk :: others => { s with coming := others, arrived := s.arrived ++ [chunk] }

def poll (s : Reading) : Reading :=
  if s.stopped then s
  else match pollLine s.closed s.gathered s.arrived with
    | .line raw rest => s.took (decodeLine raw) rest
    | .last raw => s.took (decodeLine raw) []
    | .ended => { s with stopped := true }
    | .tooLong _ => s.took (.error .tooLong) []
    | .pending bytes => { s with arrived := [], gathered := bytes }

def cancel (s : Reading) : Reading :=
  if s.stopped || s.aborting then s else { s with gathered := [], aborting := true }

def next (s : Reading) : Event → Reading
  | .arrives => s.arrive
  | .poll => s.poll
  | .cancel => s.cancel

/-- The lines processed are those of the stream, and nothing of it is missing. -/
structure Framed (stream : List UInt8) (s : Reading) : Prop where
  inOrder : s.lines <+: (rpcLines stream).map decodeLine
  complete : s.stopped = true → (∀ line ∈ s.lines, line.isOk) → s.lines = (rpcLines stream).map decodeLine
  whole : s.stopped = false → ∃ raws, s.lines = raws.map decodeLine ∧ rpcLines stream = raws ++ rpcLines s.rest

/-- A cancel signal does not meet a line of which the read has a part. -/
def Clear (s : Reading) (event : Event) : Prop :=
  event = .cancel → s.stopped = true ∨ s.aborting = true ∨ s.gathered = []

structure Sound (stream : List UInt8) (s : Reading) : Prop where
  framed : s.Framed stream
  clear : newline ∉ s.gathered
  short : s.gathered.length ≤ maxRpcLineBytes
  drained : s.closed = true → s.coming = []
  turning : s.aborting = false → s.abortLines = []

variable {stream : List UInt8} {s : Reading}

theorem took_lines (turning : s.aborting = false → s.abortLines = []) (line : Except LineError String)
    (rest : List (List UInt8)) : (s.took line rest).lines = s.lines ++ [line] := by
  unfold lines took
  cases phase : s.aborting with
  | false => simp [turning phase]
  | true => simp

/-- A read that ends with the first line of what is left, or in its error. -/
theorem took_framed (sound : s.Sound stream) (going : s.stopped = false) {others : List (List UInt8)}
    {rest : List (List UInt8)} (first : rpcLines s.rest = raw :: others)
    (left : (decodeLine raw).isOk = true → others = rpcLines (s.took (decodeLine raw) rest).rest) :
    (s.took (decodeLine raw) rest).Framed stream := by
  obtain ⟨raws, same, parts⟩ := sound.framed.whole going
  have lines : (s.took (decodeLine raw) rest).lines = (raws ++ [raw]).map decodeLine := by
    rw [took_lines sound.turning, same, List.map_append, List.map_singleton]
  have stream_lines : rpcLines stream = raws ++ [raw] ++ others := by
    rw [parts, first, List.append_assoc, List.singleton_append]
  constructor
  · rw [lines, stream_lines]
    exact (List.prefix_append (raws ++ [raw]) others).map decodeLine
  · intro failed fine
    have good := fine (decodeLine raw) (by rw [lines, List.map_append]; simp)
    rw [took, good] at failed
    cases failed
  · intro goes
    have good : (decodeLine raw).isOk = true := by
      rw [took] at goes
      simpa using goes
    exact ⟨raws ++ [raw], lines, by rw [stream_lines, left good]⟩

theorem took_sound (sound : s.Sound stream) {line : Except LineError String} {rest : List (List UInt8)}
    (framed : (s.took line rest).Framed stream) : (s.took line rest).Sound stream := by
  refine ⟨framed, List.not_mem_nil, Nat.zero_le _, sound.drained, fun phase => ?_⟩
  have turn : s.aborting = false := phase
  simp [took, turn, sound.turning turn]

theorem decode_long {raw more : List UInt8} (long : maxRpcLineBytes < raw.length) :
    decodeLine (raw ++ more) = .error .tooLong := by
  unfold decodeLine
  rw [if_pos]
  rw [List.length_append]
  exact Nat.lt_add_right _ long

/-- What does not touch the lines and leaves as much of the stream. -/
theorem same_framed {t : Reading} (framed : s.Framed stream) (lines : t.lines = s.lines) (stopped : t.stopped = s.stopped)
    (rest : rpcLines t.rest = rpcLines s.rest) : t.Framed stream := by
  constructor
  · rw [lines]
    exact framed.inOrder
  · rw [lines, stopped]
    exact framed.complete
  · rw [lines, stopped, rest]
    exact framed.whole

theorem arrive_sound (sound : s.Sound stream) : s.arrive.Sound stream := by
  unfold arrive
  rcases comes : s.coming with _ | ⟨chunk, others⟩
  · have rest : rest { s with closed := true } = s.rest := rfl
    rw [comes] at rest
    exact ⟨same_framed sound.framed rfl rfl (congrArg rpcLines rest), sound.clear, sound.short, fun _ => rfl, sound.turning⟩
  · have rest : rest { s with coming := others, arrived := s.arrived ++ [chunk] } = s.rest := by
      simp [rest, comes]
    refine ⟨same_framed sound.framed rfl rfl (congrArg rpcLines rest), sound.clear, sound.short, fun shut => ?_, sound.turning⟩
    have none := sound.drained shut
    rw [comes] at none
    cases none

theorem ended_sound (sound : s.Sound stream) (going : s.stopped = false) (rest : s.rest = []) :
    ({ s with stopped := true } : Reading).Sound stream := by
  obtain ⟨raws, same, parts⟩ := sound.framed.whole going
  rw [rest, rpcLines_nil, List.append_nil] at parts
  exact ⟨⟨sound.framed.inOrder, fun _ _ => by rw [parts]; exact same, fun goes => by cases goes⟩, sound.clear, sound.short,
    sound.drained, sound.turning⟩

/-- A poll goes on with the line. -/
theorem poll_sound (sound : s.Sound stream) : s.poll.Sound stream := by
  unfold poll
  cases going : s.stopped with
  | true => exact sound
  | false =>
    have polled := pollLine_polled s.closed sound.clear sound.short s.arrived
    have rest : s.rest = s.gathered ++ s.arrived.flatten ++ s.coming.flatten := (List.append_assoc ..).symm
    generalize pollLine s.closed s.gathered s.arrived = result at polled
    simp only [Bool.false_eq_true, if_false]
    cases polled with
    | @line raw later clear short same =>
      rw [same, List.append_assoc, List.cons_append] at rest
      have first := rpcLines_line clear (later.flatten ++ s.coming.flatten)
      rw [← rest] at first
      exact took_sound sound (took_framed sound going first fun _ => rfl)
    | @last raw shut clear short filled same =>
      rw [sound.drained shut, same, List.flatten_nil, List.append_nil] at rest
      have first : rpcLines s.rest = [raw] := by rw [rest, rpcLines_last clear filled]
      refine took_sound sound (took_framed sound going first fun _ => ?_)
      simp [took, Reading.rest, sound.drained shut, rpcLines_nil]
    | ended shut same =>
      rw [sound.drained shut, same] at rest
      exact ended_sound sound going rest
    | @tooLong raw more clear long same =>
      have filled : raw ≠ [] := by
        rintro rfl
        exact absurd long (Nat.not_lt_zero _)
      rw [same, List.append_assoc] at rest
      obtain ⟨after, others, first⟩ := rpcLines_begins clear filled (more ++ s.coming.flatten)
      rw [← rest] at first
      rw [← @decode_long raw after long]
      refine took_sound sound (took_framed sound going first fun good => ?_)
      rw [decode_long long] at good
      cases good
    | @pending bytes clear short same =>
      rw [same] at rest
      exact ⟨same_framed sound.framed rfl going.symm (congrArg rpcLines rest.symm), clear, short, sound.drained, sound.turning⟩

/-- Without the bytes gathered the line is another one. -/
theorem rpcLines_lost (clear : newline ∉ raw) {rest : List UInt8} (same : rpcLines rest = rpcLines (raw ++ rest)) :
    raw = [] := by
  by_cases ends : newline ∈ rest
  · obtain ⟨more, later, rfl, before⟩ := List.eq_append_cons_of_mem ends
    rw [rpcLines_line before, ← List.append_assoc,
      rpcLines_line fun member => (List.mem_append.mp member).elim clear before] at same
    have first := (List.cons.inj same).1
    simpa using first
  · by_contra filled
    have both : newline ∉ raw ++ rest := fun member => (List.mem_append.mp member).elim clear ends
    rw [rpcLines_last both fun empty => filled (List.append_eq_nil_iff.mp empty).1] at same
    rcases List.eq_nil_or_concat rest with rfl | ⟨_, _, rfl⟩
    · cases same
    · rw [rpcLines_last ends (by simp)] at same
      have first := (List.cons.inj same).1
      exact filled (by simpa using first)

/-- A cancel signal takes with it what the read has gathered. -/
theorem cancel_framed_iff (sound : s.Sound stream) : s.cancel.Framed stream ↔ s.Clear .cancel := by
  unfold cancel
  cases going : s.stopped with
  | true => exact ⟨fun _ _ => .inl going, fun _ => sound.framed⟩
  | false =>
    cases phase : s.aborting with
    | true => exact ⟨fun _ _ => .inr (.inl phase), fun _ => sound.framed⟩
    | false =>
      obtain ⟨raws, same, parts⟩ := sound.framed.whole going
      simp only [Bool.or_self, Bool.false_eq_true, if_false]
      constructor
      · intro framed _
        obtain ⟨others, lines, left⟩ := framed.whole rfl
        have decoded : others.map decodeLine = raws.map decodeLine := lines.symm.trans same
        have count : others.length = raws.length := by simpa using congrArg List.length decoded
        rw [parts] at left
        exact .inr (.inr (rpcLines_lost sound.clear (List.append_inj left count.symm).2.symm))
      · intro clear
        have empty := ((clear rfl).resolve_left (by simp [going])).resolve_left (by simp [phase])
        exact same_framed sound.framed rfl going.symm (by simp [rest, empty])

theorem cancel_sound (sound : s.Sound stream) (framed : s.cancel.Framed stream) : s.cancel.Sound stream := by
  unfold cancel at framed ⊢
  split at framed <;> rename_i which
  · rw [if_pos which]
    exact sound
  · rw [if_neg which]
    exact ⟨framed, List.not_mem_nil, Nat.zero_le _, sound.drained, fun phase => by cases phase⟩

theorem next_framed_iff (sound : s.Sound stream) (event : Event) : (s.next event).Framed stream ↔ s.Clear event := by
  cases event with
  | arrives => exact ⟨fun _ => nofun, fun _ => (arrive_sound sound).framed⟩
  | poll => exact ⟨fun _ => nofun, fun _ => (poll_sound sound).framed⟩
  | cancel => exact cancel_framed_iff sound

theorem next_sound (sound : s.Sound stream) {event : Event} (framed : (s.next event).Framed stream) :
    (s.next event).Sound stream := by
  cases event with
  | arrives => exact arrive_sound sound
  | poll => exact poll_sound sound
  | cancel => exact cancel_sound sound framed

end Reading

theorem start_sound (chunks : List (List UInt8)) : (start chunks).Sound chunks.flatten := by
  refine ⟨⟨List.nil_prefix, fun stopped => (by cases stopped), fun _ => ⟨[], rfl, rfl⟩⟩, List.not_mem_nil, Nat.zero_le _,
    fun shut => (by cases shut), fun _ => rfl⟩

/-- The lines processed before and after the cancel signal are those of the stream, however it
    arrives, if and only if no signal finds the beginning of a line in a read's buffer. -/
theorem lines_framed_iff (chunks : List (List UInt8)) (events : List Event) :
    Runs.Along Reading.next (fun s event => (s.next event).Framed chunks.flatten) (start chunks) events ↔
      Runs.Along Reading.next Reading.Clear (start chunks) events :=
  Runs.along_congr (Reading.Sound chunks.flatten) (fun _ _ sound framed => Reading.next_sound sound framed)
    (fun _ event sound => Reading.next_framed_iff sound event) events (start_sound chunks)

/-- An empty object, in two pieces. -/
def pieces : List (List UInt8) := ["\x7b".toUTF8.toList, "\x7d\n".toUTF8.toList]

/-- The signal comes between the two: `abort_turn` processes the second as a line of its own. -/
theorem cancel_loses_bytes :
    let s := [Event.arrives, .poll, .cancel, .arrives, .poll].foldl Reading.next (start pieces)
    s.lines = [.ok "\x7d"] ∧ (rpcLines pieces.flatten).map decodeLine = [.ok "\x7b\x7d"] ∧ ¬ s.Framed pieces.flatten := by
  refine ⟨by decide +kernel, by decide +kernel, fun framed => absurd framed.inOrder (by decide +kernel)⟩

end Remagic.Pi
