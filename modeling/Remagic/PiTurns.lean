import Mathlib.Data.List.DropRight
import Remagic.AgentMessages
import Remagic.Json

/-!
# Turns of Pi

The worker of an application runs its turns one after the other. A turn ends in one of
seven ways, and in an eighth where the worker has gone before it; its text is put together
from the lines of Pi and is published with its end.
-/

namespace Remagic.Pi
open Json
open Remagic.Agent (agentProtocolV1)

def maxPublishedOutput : Nat := 64 * 1024

/-- Without the prompt. -/
structure TurnInput where
  requestId : String
  appId : AppId
  turnId : String
  deriving DecidableEq

/-- The codes of a turn's own task. -/
inductive AgentErrorCode where
  | backendFailed
  | cancelled
  deriving DecidableEq

inductive AgentEvent where
  | accepted (protocol : UInt16) (requestId : String) (appId : AppId) (turnId : String)
  | textDelta (protocol : UInt16) (requestId : String) (appId : AppId) (turnId text : String)
  | complete (protocol : UInt16) (requestId : String) (appId : AppId) (turnId : String)
  | error (protocol : UInt16) (requestId : String) (appId : AppId) (turnId : Option String) (code : AgentErrorCode)
      (message : String) (retryable : Bool)
  deriving DecidableEq

namespace TurnInput
variable (turn : TurnInput)

def accepted : AgentEvent := .accepted agentProtocolV1 turn.requestId turn.appId turn.turnId

def publishText (text : String) : AgentEvent := .textDelta agentProtocolV1 turn.requestId turn.appId turn.turnId text

def complete : AgentEvent := .complete agentProtocolV1 turn.requestId turn.appId turn.turnId

def sendError (message : String) (retryable : Bool) : AgentEvent :=
  .error agentProtocolV1 turn.requestId turn.appId (some turn.turnId) .backendFailed message retryable

def sendCancelled : AgentEvent :=
  .error agentProtocolV1 turn.requestId turn.appId (some turn.turnId) .cancelled "turn cancelled" false

/-- The events that end the turn, with its identifiers. -/
inductive Terminal : AgentEvent → Prop where
  | complete : Terminal turn.complete
  | error (code : AgentErrorCode) (message : String) (retryable : Bool) :
      Terminal (.error agentProtocolV1 turn.requestId turn.appId (some turn.turnId) code message retryable)

end TurnInput

/-! ## What a line says -/

def succeeded (value : Value) : Bool := (value.get "success").bind Value.asBool == some true

def responseMatches (value : Value) (id command : String) : Bool :=
  value.text "type" == some "response" && value.text "id" == some id && value.text "command" == some command

def rpcError (value : Value) : String := (value.text "error").getD "Pi rejected the RPC command"

def assistantText (value : Value) : Option String := do
  let message ← value.get "message"
  guard (message.text "role" = some "assistant")
  let content ← (← message.get "content").asArray
  let text := String.join ((content.filter fun part => part.text "type" == some "text").filterMap (·.text "text"))
  if text = "" then none else some text

def streamingTextDelta (value : Value) : Option String := do
  let event ← value.get "assistantMessageEvent"
  if event.text "type" = some "text_delta" then event.text "delta" else none

def overLimit : String := "Pi answer exceeded the 64 KiB output limit"

def updateCandidate (value : Value) (candidate : String) : Except String String :=
  match assistantText value with
  | some text => if text.utf8ByteSize > maxPublishedOutput then .error overLimit else .ok text
  | none =>
    match (streamingTextDelta value).filter (· ≠ "") with
    | some delta =>
      if candidate.utf8ByteSize + delta.utf8ByteSize > maxPublishedOutput then .error overLimit else .ok (candidate ++ delta)
    | none => .ok candidate

/-! ## The turn -/

inductive LineOutcome where
  | continue
  | complete
  | rejected (message : String)
  | fatal (message : String)
  deriving DecidableEq

/-- What the loop of `run_turn` carries, with the events it has sent. -/
structure Turning where
  accepted : Bool := false
  published : String := ""
  sent : List AgentEvent := []

variable (parse : String → Option Value)

def processLine (line : String) (turn : TurnInput) (s : Turning) : LineOutcome × Turning :=
  match parse line with
  | none => (.continue, s)
  | some value =>
    if responseMatches value turn.turnId "prompt" then
      (if succeeded value then .continue else .rejected (rpcError value), { s with accepted := succeeded value })
    else if (value.text "type" = some "message_update" ∨ value.text "type" = some "message_end") ∧ s.accepted then
      match updateCandidate value s.published with
      | .ok published => (.continue, { s with published })
      | .error message => (.fatal message, s)
    -- What Pi says before it calls a tool is narration of its work.
    else if value.text "type" = some "tool_execution_start" ∧ s.accepted then (.continue, { s with published := "" })
    else if value.text "type" = some "agent_end" ∧ s.accepted then
      let text := if s.published = "" then [] else [turn.publishText s.published]
      (.complete, { s with sent := s.sent ++ text ++ [turn.complete] })
    else (.continue, s)

/-- What `select!` finds. -/
inductive Happening where
  /-- The cancel channel has changed: `none` when its sender is gone. -/
  | changed (signal : Option Bool)
  | line (text : String)
  deriving DecidableEq

/-- How the output ends, where nothing ends the turn before. -/
inductive Ending where
  | exited
  | failed (message : String)
  deriving DecidableEq

/-- How it goes with a turn: whether its commands are written, and what Pi answers. -/
structure TurnScript where
  written : Except String Unit
  happenings : List Happening
  ending : Ending
  abortWritten : Except String Unit
  /-- The lines that are read of the abort before the output ends or fails or the time is up. -/
  abortLines : List String

/-- Whether both the response and the end of the agent are read. -/
def drain (abortId : String) (responseOk ended : Bool) : List String → Bool
  | [] => responseOk && ended
  | line :: rest =>
    if responseOk && ended then true
    else match parse line with
      | none => drain abortId responseOk ended rest
      | some value =>
        drain abortId (if responseMatches value abortId "abort" then succeeded value else responseOk)
          (ended || value.text "type" == some "agent_end") rest

/-- The events, and whether the worker keeps running. -/
def abortTurn (turn : TurnInput) (script : TurnScript) : List AgentEvent × Bool :=
  match script.abortWritten with
  | .error _ => ([turn.sendCancelled], false)
  | .ok () => ([turn.sendCancelled], drain parse s!"abort:{turn.turnId}" false false script.abortLines)

def turnLoop (turn : TurnInput) (script : TurnScript) (s : Turning) : List Happening → List AgentEvent × Bool
  | [] => match script.ending with
    | .exited => (s.sent ++ [turn.sendError "Pi exited before agent_end" true], false)
    | .failed message => (s.sent ++ [turn.sendError message true], false)
  | .changed signal :: rest =>
    if signal = some true then (s.sent ++ (abortTurn parse turn script).1, (abortTurn parse turn script).2)
    else turnLoop turn script s rest
  | .line line :: rest =>
    match processLine parse line turn s with
    | (.continue, s) => turnLoop turn script s rest
    | (.complete, s) => (s.sent, true)
    | (.rejected message, s) => (s.sent ++ [turn.sendError message false], true)
    | (.fatal message, s) => (s.sent ++ [turn.sendError message false], false)

def runTurn (turn : TurnInput) (script : TurnScript) : List AgentEvent × Bool :=
  match script.written with
  | .error message => ([turn.sendError message true], false)
  | .ok () => turnLoop parse turn script {} script.happenings

/-! ## The worker and the tasks of the turns -/

inductive WorkerCommand where
  | turn (input : TurnInput) (script : TurnScript)
  | newSession (success : Bool)
  | shutdown

/-- The task of a turn that was accepted, with all events of the turn. -/
structure TurnTask where
  input : TurnInput
  script : TurnScript
  events : List AgentEvent

/-- What `start_turn` and `spawn_turn` send around what the worker does, which is nothing
    when it has exited. -/
def spawnTurn (input : TurnInput) (script : TurnScript) : Option (List AgentEvent) → TurnTask
  | some worked => ⟨input, script, input.accepted :: worked⟩
  | none => ⟨input, script, [input.accepted, input.sendError "Pi worker exited" true]⟩

/-- The tasks of the turns among the commands that a worker is given. -/
def serve (running : Bool) : List WorkerCommand → List TurnTask
  | [] => []
  | .turn input script :: rest =>
    if running then spawnTurn input script (some (runTurn parse input script).1) :: serve (runTurn parse input script).2 rest
    else spawnTurn input script none :: serve false rest
  | .newSession success :: rest => serve (running && success) rest
  | .shutdown :: rest => serve false rest

/-! ## What a turn publishes -/

def isMessage (value : Value) : Bool :=
  value.text "type" == some "message_update" || value.text "type" == some "message_end"

/-- The whole text of the assistant's message, where a line gives it. -/
def wholeText (value : Value) : Option String := if isMessage value then assistantText value else none

/-- What a line adds to it. -/
def addedText (value : Value) : Option String := if isMessage value then streamingTextDelta value else none

/-- The text that lines make: the last whole text among them, and what is added after it. -/
def candidate (values : List Value) : String :=
  (values.filterMap wholeText).getLast?.getD "" ++
    String.join ((values.rtakeWhile fun value => (wholeText value).isNone).filterMap addedText)

/-- The lines after the first response to the prompt. -/
def acknowledged (turnId : String) (values : List Value) : List Value :=
  (values.dropWhile fun value => !responseMatches value turnId "prompt").tail

/-- The lines after the last tool's start. -/
def afterTools (values : List Value) : List Value :=
  values.rtakeWhile fun value => value.text "type" != some "tool_execution_start"

/-- What the lines among them say. -/
def heard (happenings : List Happening) : List Value :=
  happenings.filterMap fun
    | .changed _ => none
    | .line text => parse text

/-- The text is what is published of the task's turn. -/
structure Published (task : TurnTask) (text : String) : Prop where
  filled : text ≠ ""
  short : text.utf8ByteSize ≤ maxPublishedOutput
  made : ∃ before last after, task.script.happenings = before ++ .line last :: after ∧ .changed (some true) ∉ before ∧
    (parse last).bind (·.text "type") = some "agent_end" ∧
    text = candidate (afterTools (acknowledged task.input.turnId (heard parse before)))

/-- One event ends the turn; a text comes before it only where the turn is complete. -/
def Streamed (task : TurnTask) : Prop :=
  (∃ terminal, task.input.Terminal terminal ∧ task.events = [task.input.accepted, terminal]) ∨
    ∃ text, Published parse task text ∧ task.events = [task.input.accepted, task.input.publishText text, task.input.complete]

theorem wholeText_other {value : Value} (other : isMessage value = false) : wholeText value = none := by
  rw [wholeText, other]
  rfl

theorem addedText_other {value : Value} (other : isMessage value = false) : addedText value = none := by
  rw [addedText, other]
  rfl

theorem candidate_whole (values : List Value) {value : Value} {text : String} (whole : wholeText value = some text) :
    candidate (values ++ [value]) = text := by
  have last : (values ++ [value]).filterMap wholeText = values.filterMap wholeText ++ [text] := by
    rw [List.filterMap_append, List.filterMap_cons_some whole, List.filterMap_nil]
  have nothing : (values ++ [value]).rtakeWhile (fun value => (wholeText value).isNone) = [] :=
    List.rtakeWhile_concat_neg _ _ _ (by simp [whole])
  rw [candidate, last, nothing, List.getLast?_concat]
  exact String.append_empty

theorem candidate_added (values : List Value) {value : Value} (part : wholeText value = none) :
    candidate (values ++ [value]) = candidate values ++ (addedText value).getD "" := by
  have last : (values ++ [value]).filterMap wholeText = values.filterMap wholeText := by
    rw [List.filterMap_append, List.filterMap_cons_none part, List.filterMap_nil, List.append_nil]
  have more : (values ++ [value]).rtakeWhile (fun value => (wholeText value).isNone) =
      values.rtakeWhile (fun value => (wholeText value).isNone) ++ [value] :=
    List.rtakeWhile_concat_pos _ _ _ (by simp [part])
  rw [candidate, last, more, List.filterMap_append, String.join_append, ← String.append_assoc, candidate]
  cases added : addedText value <;> simp [added]

theorem updateCandidate_ok {value : Value} {text next : String} (short : text.utf8ByteSize ≤ maxPublishedOutput)
    (updated : updateCandidate value text = .ok next) :
    next = (assistantText value).getD (text ++ (streamingTextDelta value).getD "") ∧ next.utf8ByteSize ≤ maxPublishedOutput := by
  unfold updateCandidate at updated
  cases whole : assistantText value with
  | some all =>
    simp only [whole] at updated
    split at updated
    · cases updated
    · cases updated
      exact ⟨rfl, by omega⟩
  | none =>
    simp only [whole] at updated
    split at updated
    · next delta added =>
      split at updated
      · cases updated
      · cases updated
        rw [(Option.filter_eq_some_iff.mp added).1, String.utf8ByteSize_append]
        exact ⟨rfl, by omega⟩
    · next nothing =>
      cases updated
      cases added : streamingTextDelta value with
      | none => exact ⟨String.append_empty.symm, short⟩
      | some delta =>
        have empty : delta = "" := by simpa [added] using nothing
        exact ⟨by rw [empty]; exact String.append_empty.symm, short⟩

section
variable {turnId : String} {values : List Value} {value : Value}

theorem acknowledged_before (unanswered : (values.any fun value => responseMatches value turnId "prompt") = false) :
    acknowledged turnId (values ++ [value]) = [] := by
  have all : ∀ v ∈ values, (!responseMatches v turnId "prompt") = true := by simpa using unanswered
  rw [acknowledged, List.dropWhile_append_of_pos all]
  cases answer : responseMatches value turnId "prompt" <;> simp [answer]

theorem acknowledged_none (unanswered : (values.any fun value => responseMatches value turnId "prompt") = false) :
    acknowledged turnId values = [] := by
  have all : ∀ v ∈ values, (!responseMatches v turnId "prompt") = true := by simpa using unanswered
  rw [acknowledged, List.dropWhile_eq_nil_iff.mpr all, List.tail_nil]

theorem acknowledged_after (answered : (values.any fun value => responseMatches value turnId "prompt") = true) :
    acknowledged turnId (values ++ [value]) = acknowledged turnId values ++ [value] := by
  have some : values.dropWhile (fun value => !responseMatches value turnId "prompt") ≠ [] := by
    intro none
    obtain ⟨v, member, response⟩ := List.any_eq_true.mp answered
    have other := List.dropWhile_eq_nil_iff.mp none v member
    simp [response] at other
  rw [acknowledged, List.dropWhile_append, if_neg (by simpa using some), List.tail_append_of_ne_nil some, acknowledged]

theorem afterTools_started (started : value.text "type" = some "tool_execution_start") : afterTools (values ++ [value]) = [] :=
  List.rtakeWhile_concat_neg _ _ _ (by simp [started])

theorem afterTools_other (other : value.text "type" ≠ some "tool_execution_start") :
    afterTools (values ++ [value]) = afterTools values ++ [value] :=
  List.rtakeWhile_concat_pos _ _ _ (by simp [other])

theorem response_type {id command : String} (response : responseMatches value id command = true) :
    value.text "type" = some "response" := by
  simp only [responseMatches, Bool.and_eq_true, beq_iff_eq] at response
  exact response.1.1

end

/-- What the loop has after the lines it has read. -/
structure Tracks (turnId : String) (values : List Value) (s : Turning) : Prop where
  accepted : s.accepted = values.any fun value => responseMatches value turnId "prompt"
  published : s.published = candidate (afterTools (acknowledged turnId values))
  short : s.published.utf8ByteSize ≤ maxPublishedOutput
  silent : s.sent = []

section
variable {turn : TurnInput} {values : List Value} {s : Turning} {value : Value}

/-- Before the response to the prompt every line passes, and after it one that is no part of a
    message and starts no tool. -/
theorem Tracks.passed (tracks : Tracks turn.turnId values s)
    (other : s.accepted = true → isMessage value = false ∧ value.text "type" ≠ some "tool_execution_start") :
    s.published = candidate (afterTools (acknowledged turn.turnId (values ++ [value]))) := by
  cases answered : s.accepted with
  | false =>
    have none := tracks.accepted.symm.trans answered
    rw [acknowledged_before none, tracks.published, acknowledged_none none]
  | true =>
    rw [acknowledged_after (tracks.accepted.symm.trans answered), afterTools_other (other answered).2,
      candidate_added _ (wholeText_other (other answered).1), addedText_other (other answered).1, tracks.published]
    exact String.append_empty.symm

theorem Tracks.updated (tracks : Tracks turn.turnId values s) (answered : s.accepted = true) (message : isMessage value = true)
    {published : String} (updated : updateCandidate value s.published = .ok published) :
    published = candidate (afterTools (acknowledged turn.turnId (values ++ [value]))) := by
  have other : value.text "type" ≠ some "tool_execution_start" := by
    intro tool
    simp [isMessage, tool] at message
  have whole : wholeText value = assistantText value := if_pos message
  have added : addedText value = streamingTextDelta value := if_pos message
  rw [acknowledged_after (tracks.accepted.symm.trans answered), afterTools_other other,
    (updateCandidate_ok tracks.short updated).1]
  cases text : assistantText value with
  | some text => rw [candidate_whole _ (whole.trans text), Option.getD_some]
  | none => rw [candidate_added _ (whole.trans text), added, Option.getD_none, tracks.published]

/-- What comes of a line: the loop goes on with it, or the turn ends with what has been sent. -/
inductive Processed (turn : TurnInput) (values : List Value) (s : Turning) (said : Option Value) :
    LineOutcome × Turning → Prop where
  | goes {next : Turning} (tracks : Tracks turn.turnId (values ++ said.toList) next) :
    Processed turn values s said (.continue, next)
  | ends {next : Turning} (type : said.bind (·.text "type") = some "agent_end")
      (sent : next.sent = (if s.published = "" then [] else [turn.publishText s.published]) ++ [turn.complete]) :
      Processed turn values s said (.complete, next)
  | rejected {message : String} {next : Turning} (silent : next.sent = []) : Processed turn values s said (.rejected message, next)
  | fatal {message : String} {next : Turning} (silent : next.sent = []) : Processed turn values s said (.fatal message, next)

theorem processLine_processed (tracks : Tracks turn.turnId values s) (line : String) :
    Processed turn values s (parse line) (processLine parse line turn s) := by
  unfold processLine
  cases parse line with
  | none => exact .goes (by rwa [Option.toList_none, List.append_nil])
  | some value =>
    have any : (values ++ [value]).any (fun value => responseMatches value turn.turnId "prompt") =
        (s.accepted || responseMatches value turn.turnId "prompt") := by
      rw [List.any_append, tracks.accepted, List.any_cons, List.any_nil, Bool.or_false]
    cases response : responseMatches value turn.turnId "prompt" with
    | true =>
      have type := response_type response
      simp only [response, if_true]
      cases success : succeeded value with
      | false => exact .rejected tracks.silent
      | true =>
        have answered : true = (values ++ [value]).any fun value => responseMatches value turn.turnId "prompt" := by
          rw [any, response, Bool.or_true]
        exact .goes ⟨answered, tracks.passed fun _ => by simp [isMessage, type], tracks.short, tracks.silent⟩
    | false =>
      rw [response, Bool.or_false] at any
      simp only [response, Bool.false_eq_true, if_false]
      split
      · next message =>
        have part : isMessage value = true := by simpa [isMessage] using message.1
        cases updated : updateCandidate value s.published with
        | error text => exact .fatal tracks.silent
        | ok published =>
          exact .goes ⟨any.symm, tracks.updated message.2 part updated, (updateCandidate_ok tracks.short updated).2, tracks.silent⟩
      · next message =>
        split
        · next tool =>
          refine .goes ⟨any.symm, ?_, Nat.zero_le _, tracks.silent⟩
          rw [Option.toList_some, acknowledged_after (tracks.accepted.symm.trans tool.2), afterTools_started tool.1]
          rfl
        · next tool =>
          split
          · next ends => exact .ends ends.1 (by rw [tracks.silent, List.nil_append])
          · refine .goes ⟨any.symm, tracks.passed fun answered => ⟨?_, fun started => tool ⟨started, answered⟩⟩, tracks.short,
              tracks.silent⟩
            simpa [isMessage, answered] using message

end

/-! ## The events of a turn -/

theorem abortTurn_sends (turn : TurnInput) (script : TurnScript) : (abortTurn parse turn script).1 = [turn.sendCancelled] := by
  unfold abortTurn
  split <;> rfl

theorem heard_append (before : List Happening) (line : String) :
    heard parse (before ++ [.line line]) = heard parse before ++ (parse line).toList := by
  rw [heard, List.filterMap_append, ← heard]
  cases parsed : parse line <;> simp [parsed]

/-- The loop sends one event more, or the text and the end. -/
theorem turnLoop_sends (turn : TurnInput) (script : TurnScript) (before : List Happening) (s : Turning)
    (uncancelled : .changed (some true) ∉ before) (tracks : Tracks turn.turnId (heard parse before) s)
    (happenings : List Happening) (all : script.happenings = before ++ happenings) (events : List AgentEvent)
    (sent : (turnLoop parse turn script s happenings).1 = events) :
    (∃ terminal, turn.Terminal terminal ∧ events = [terminal]) ∨
      ∃ text, Published parse ⟨turn, script, turn.accepted :: events⟩ text ∧ events = [turn.publishText text, turn.complete] := by
  induction happenings generalizing before s with
  | nil =>
    rw [turnLoop, tracks.silent] at sent
    split at sent
    · exact .inl ⟨_, .error .., sent.symm⟩
    · exact .inl ⟨_, .error .., sent.symm⟩
  | cons happening rest ih =>
    have later : script.happenings = before ++ [happening] ++ rest := by rw [all, List.append_assoc, List.singleton_append]
    cases happening with
    | changed signal =>
      rw [turnLoop, abortTurn_sends, tracks.silent] at sent
      split at sent
      · exact .inl ⟨_, .error .., sent.symm⟩
      · next other =>
        refine ih (before ++ [.changed signal]) s ?_ ?_ later sent
        · simpa [uncancelled] using fun same : some true = signal => other same.symm
        · simpa [heard] using tracks
    | line line =>
      have processed := processLine_processed parse tracks line
      rw [turnLoop] at sent
      cases outcome : processLine parse line turn s with
      | mk outcome next =>
        rw [outcome] at processed sent
        cases processed with
        | goes tracked =>
          rw [← heard_append] at tracked
          exact ih (before ++ [.line line]) next (by simpa using uncancelled) tracked later sent
        | ends type said =>
          simp only at sent
          rw [← sent, said]
          split
          · exact .inl ⟨_, .complete, rfl⟩
          · next filled =>
            exact .inr ⟨s.published, ⟨filled, tracks.short, before, line, rest, all, uncancelled, type, tracks.published⟩, rfl⟩
        | rejected silent =>
          simp only [silent] at sent
          exact .inl ⟨_, .error .., sent.symm⟩
        | fatal silent =>
          simp only [silent] at sent
          exact .inl ⟨_, .error .., sent.symm⟩

theorem start_tracks (turnId : String) : Tracks turnId [] {} := ⟨rfl, rfl, Nat.zero_le _, rfl⟩

theorem spawnTurn_streamed (turn : TurnInput) (script : TurnScript) :
    Streamed parse (spawnTurn turn script (some (runTurn parse turn script).1)) := by
  cases written : script.written with
  | error message =>
    have sends : (runTurn parse turn script).1 = [turn.sendError message true] := by rw [runTurn, written]
    exact .inl ⟨_, .error .backendFailed message true, congrArg _ sends⟩
  | ok =>
    have runs : (runTurn parse turn script).1 = (turnLoop parse turn script {} script.happenings).1 := by rw [runTurn, written]
    rcases turnLoop_sends parse turn script [] {} List.not_mem_nil (start_tracks turn.turnId) script.happenings rfl _ runs.symm
      with ⟨terminal, ends, same⟩ | ⟨text, published, same⟩
    · exact .inl ⟨terminal, ends, congrArg _ same⟩
    · exact .inr ⟨text, published, congrArg _ same⟩

/-- Every turn that a worker is given, whatever else it is given and whatever becomes of it. -/
theorem turns_streamed (running : Bool) (commands : List WorkerCommand) :
    ∀ task ∈ serve parse running commands, Streamed parse task := by
  intro task member
  induction commands generalizing running with
  | nil => cases member
  | cons command rest ih =>
    cases command with
    | turn input script =>
      rw [serve] at member
      split at member
      · rcases List.mem_cons.mp member with rfl | later
        · exact spawnTurn_streamed parse input script
        · exact ih _ later
      · rcases List.mem_cons.mp member with rfl | later
        · exact .inl ⟨_, .error .., rfl⟩
        · exact ih _ later
    | newSession success => exact ih _ member
    | shutdown => exact ih _ member

/-- Pi narrates, calls a tool and answers. -/
def spoken (line : String) : Option Value :=
  [("r", .object [("type", .string "response"), ("id", .string "magicpaper:1"),
    ("command", .string "prompt"), ("success", .bool true)]),
    ("n", .object [("type", .string "message_update"),
      ("assistantMessageEvent", .object [("type", .string "text_delta"), ("delta", .string "Looking.")])]),
    ("t", .object [("type", .string "tool_execution_start")]),
    ("a", .object [("type", .string "message_end"), ("message", .object [("role", .string "assistant"),
      ("content", .array [.object [("type", .string "text"), ("text", .string "Done.")]])])]),
    ("e", .object [("type", .string "agent_end")])].lookup line

def spokenTurn : TurnInput := ⟨"1", Agent.magicpaper, "magicpaper:1"⟩

def spokenScript : TurnScript := ⟨.ok (), ["n", "r", "n", "t", "a", "e"].map .line, .exited, .ok (), []⟩

theorem spoken_streamed :
    Streamed spoken ⟨spokenTurn, spokenScript, [spokenTurn.accepted, spokenTurn.publishText "Done.", spokenTurn.complete]⟩ :=
  turns_streamed spoken true [.turn spokenTurn spokenScript] _ (List.mem_singleton.mpr rfl)

end Remagic.Pi
