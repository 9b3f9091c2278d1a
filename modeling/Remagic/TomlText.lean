import Mathlib.Data.List.Forall2
import Mathlib.Data.List.Infix

/-!
# Strings as TOML writes them

A document is read character by character: what is outside of strings and comments as it
stands, and a string as the characters and escapes that it is written with, in any of the
four notations. What is written of a string is part of the document's text.
-/

namespace TomlText

inductive Quote where
  | basic
  | literal
  | multiBasic
  | multiLiteral
  deriving DecidableEq

def Quote.mark : Quote → Char
  | .basic | .multiBasic => '"'
  | .literal | .multiLiteral => '\''

def Quote.multi : Quote → Bool
  | .basic | .literal => false
  | .multiBasic | .multiLiteral => true

def Quote.escapes : Quote → Bool
  | .basic | .multiBasic => true
  | .literal | .multiLiteral => false

/-- The characters that stand for themselves, the quote's own and the backslash apart. -/
def Quote.allows (quote : Quote) (c : Char) : Bool :=
  (32 ≤ c.toNat && c.toNat ≠ 127) || c = '\t' || (quote.multi && (c = '\n' || c = '\r'))

/-- A part of a string: a character, an escape with what it stands for, or a closing quote. -/
inductive Written where
  | plain (c : Char)
  | escape (raw value : List Char)
  | close (mark : Char)
  deriving DecidableEq

def Written.raw : Written → List Char
  | .plain c => [c]
  | .escape raw _ => raw
  | .close mark => [mark]

def Written.value : Written → List Char
  | .plain c => [c]
  | .escape _ value => value
  | .close _ => []

/-- What was seen and is not written yet. -/
inductive Pending where
  | none
  | fresh
  | quotes (count : Nat)
  | escape (raw : List Char)
  | digits (raw : List Char) (wanted code : Nat)
  | trim (raw : List Char) (ended : Bool)
  deriving DecidableEq

/-- Where a character leads: on inside the string, to its end, or past an end before it. -/
inductive Next where
  | inside (pending : Pending)
  | closed
  | past
  deriving DecidableEq

def plainly (quote : Quote) (c : Char) : Option (List Written × Next) :=
  if c = quote.mark then
    if quote.multi then some ([], .inside (.quotes 1)) else some ([.close c], .closed)
  else if c = '\\' && quote.escapes then some ([], .inside (.escape [c]))
  else if quote.allows c then some ([.plain c], .inside .none)
  else none

def blank (c : Char) : Bool := c = ' ' || c = '\t' || c = '\n' || c = '\r'

def simpleEscape : Char → Option Char
  | 'b' => some '\x08'
  | 't' => some '\t'
  | 'n' => some '\n'
  | 'f' => some '\x0c'
  | 'r' => some '\r'
  | 'e' => some '\x1b'
  | '"' => some '"'
  | '\\' => some '\\'
  | _ => none

def digitsWanted : Char → Option Nat
  | 'x' => some 2
  | 'u' => some 4
  | 'U' => some 8
  | _ => none

def hexDigit (c : Char) : Option Nat :=
  if '0' ≤ c && c ≤ '9' then some (c.toNat - '0'.toNat)
  else if 'a' ≤ c && c ≤ 'f' then some (c.toNat - 'a'.toNat + 10)
  else if 'A' ≤ c && c ≤ 'F' then some (c.toNat - 'A'.toNat + 10)
  else none

/-- What a character adds to a string, and where it leads. -/
def advance (quote : Quote) : Pending → Char → Option (List Written × Next)
  | .none, c => plainly quote c
  | .fresh, c =>
    -- the line end right after an opening quote of several lines is not the string's
    if c = '\n' then some ([.escape [c] []], .inside .none)
    else if c = '\r' then some ([.escape [c] []], .inside .fresh)
    else plainly quote c
  | .quotes count, c =>
    if c = quote.mark && count < 5 then some ([], .inside (.quotes (count + 1)))
    else if 3 ≤ count then
      some (List.replicate (count - 3) (.plain quote.mark) ++ List.replicate 3 (.close quote.mark), .past)
    else (plainly quote c).map fun (units, next) => (List.replicate count (.plain quote.mark) ++ units, next)
  | .escape raw, c =>
    match simpleEscape c, digitsWanted c with
    | some meant, _ => some ([.escape (raw ++ [c]) [meant]], .inside .none)
    | none, some wanted => some ([], .inside (.digits (raw ++ [c]) wanted 0))
    | none, none => if quote.multi && blank c then some ([], .inside (.trim (raw ++ [c]) (c = '\n'))) else none
  | .digits raw wanted code, c =>
    match hexDigit c with
    | none => none
    | some digit =>
      if 1 < wanted then some ([], .inside (.digits (raw ++ [c]) (wanted - 1) (code * 16 + digit)))
      else if (code * 16 + digit).isValidChar then
        some ([.escape (raw ++ [c]) [Char.ofNat (code * 16 + digit)]], .inside .none)
      else none
  | .trim raw ended, c =>
    if blank c then some ([], .inside (.trim (raw ++ [c]) (ended || c = '\n')))
    else if ended then (plainly quote c).map fun (units, next) => (.escape raw [] :: units, next)
    else none

inductive Item where
  | code (c : Char)
  | string (quote : Quote) (written : List Written)
  deriving DecidableEq

inductive Mode where
  | code
  | comment
  | opening (mark : Char) (count : Nat)
  | string (quote : Quote) (written : List Written) (pending : Pending)
  deriving DecidableEq

structure Reading where
  items : List Item := []
  mode : Mode := .code
  deriving DecidableEq

def singleOf (mark : Char) : Quote := if mark = '"' then .basic else .literal

def multiOf (mark : Char) : Quote := if mark = '"' then .multiBasic else .multiLiteral

/-- A character outside of strings and comments, where no slash stands. -/
def readCode (items : List Item) (c : Char) : Option Reading :=
  if c = '/' then none
  else if c = '"' || c = '\'' then some ⟨items, .opening c 1⟩
  else if c = '#' then some ⟨items, .comment⟩
  else some ⟨items ++ [.code c], .code⟩

def readString (items : List Item) (quote : Quote) (written : List Written) (pending : Pending) (c : Char) :
    Option Reading :=
  match advance quote pending c with
  | none => none
  | some (units, .inside pending) => some ⟨items, .string quote (written ++ units) pending⟩
  | some (units, .closed) => some ⟨items ++ [.string quote (written ++ units)], .code⟩
  | some (units, .past) => readCode (items ++ [.string quote (written ++ units)]) c

def read (reading : Reading) (c : Char) : Option Reading :=
  match reading.mode with
  | .code => readCode reading.items c
  | .comment => if c = '\n' then some ⟨reading.items ++ [.code c], .code⟩ else some reading
  | .opening mark count =>
    if c = mark then
      if count = 1 then some ⟨reading.items, .opening mark 2⟩
      else some ⟨reading.items, .string (multiOf mark) [] .fresh⟩
    else if count = 1 then readString reading.items (singleOf mark) [] .none c
    else readCode (reading.items ++ [.string (singleOf mark) [.close mark]]) c
  | .string quote written pending => readString reading.items quote written pending c

/-- What the document holds once its last character is read. -/
def finish (reading : Reading) : Option (List Item) :=
  match reading.mode with
  | .code | .comment => some reading.items
  | .opening mark count => if count = 2 then some (reading.items ++ [.string (singleOf mark) [.close mark]]) else none
  | .string quote written (.quotes count) =>
    if 3 ≤ count then
      some (reading.items ++ [.string quote (written ++ (List.replicate (count - 3) (.plain quote.mark) ++
        List.replicate 3 (.close quote.mark)))])
    else none
  | .string _ _ _ => none

def document (text : List Char) : Option (List Item) := (text.foldlM read {}).bind finish

/-! ## Strings are parts of the text -/

def rawText (written : List Written) : List Char := written.flatMap Written.raw

def valueText (written : List Written) : List Char := written.flatMap Written.value

theorem rawText_append (v w : List Written) : rawText (v ++ w) = rawText v ++ rawText w := List.flatMap_append

theorem valueText_append (v w : List Written) : valueText (v ++ w) = valueText v ++ valueText w := List.flatMap_append

theorem rawText_map (text : List Char) : rawText (text.map .plain) = text := by
  induction text with
  | nil => rfl
  | cons c rest ih => exact congrArg (c :: ·) ih

theorem valueText_map (text : List Char) : valueText (text.map .plain) = text := by
  induction text with
  | nil => rfl
  | cons c rest ih => exact congrArg (c :: ·) ih

def Pending.raw (quote : Quote) : Pending → List Char
  | .none | .fresh => []
  | .quotes count => List.replicate count quote.mark
  | .escape raw | .digits raw _ _ | .trim raw _ => raw

theorem rawText_escape (raw value : List Char) : rawText [.escape raw value] = raw := List.append_nil raw

theorem rawText_plain (count : Nat) (mark : Char) :
    rawText (List.replicate count (.plain mark)) = List.replicate count mark := by
  induction count with
  | zero => rfl
  | succ count ih => exact congrArg (mark :: ·) ih

theorem rawText_close (count : Nat) (mark : Char) :
    rawText (List.replicate count (.close mark)) = List.replicate count mark := by
  induction count with
  | zero => rfl
  | succ count ih => exact congrArg (mark :: ·) ih

/-- What was pending and the character read are what is added and what is pending then. -/
def Accounts (quote : Quote) (pending : Pending) (c : Char) (units : List Written) : Next → Prop
  | .inside later => rawText units ++ later.raw quote = pending.raw quote ++ [c]
  | .closed => rawText units = pending.raw quote ++ [c]
  | .past => rawText units = pending.raw quote

variable {quote : Quote} {c : Char} {units : List Written}

theorem plainly_accounts {next : Next} (ok : plainly quote c = some (units, next)) :
    Accounts quote .none c units next := by
  unfold plainly at ok
  split_ifs at ok with marked <;> cases ok
  · rw [marked]
    rfl
  · rfl
  · rfl
  · rfl

/-- What comes first in front of a character that is read plainly. -/
theorem Accounts.after {pending : Pending} {next : Next} (accounts : Accounts quote .none c units next)
    {before : List Written} (same : rawText before = pending.raw quote) :
    Accounts quote pending c (before ++ units) next := by
  cases next with
  | inside later =>
    show rawText (before ++ units) ++ later.raw quote = pending.raw quote ++ [c]
    rw [rawText_append, List.append_assoc, show rawText units ++ later.raw quote = [c] from accounts, same]
  | closed =>
    show rawText (before ++ units) = pending.raw quote ++ [c]
    rw [rawText_append, show rawText units = [c] from accounts, same]
  | past =>
    show rawText (before ++ units) = pending.raw quote
    rw [rawText_append, show rawText units = [] from accounts, List.append_nil, same]

theorem advance_accounts {pending : Pending} {next : Next} (ok : advance quote pending c = some (units, next)) :
    Accounts quote pending c units next := by
  cases pending with
  | none => exact plainly_accounts ok
  | fresh =>
    simp only [advance] at ok
    split_ifs at ok
    · cases ok
      rfl
    · cases ok
      rfl
    · exact plainly_accounts ok
  | quotes count =>
    simp only [advance] at ok
    split_ifs at ok with more closing
    · cases ok
      simp only [Bool.and_eq_true, decide_eq_true_eq] at more
      rw [more.1]
      exact List.replicate_succ'
    · cases ok
      show rawText _ = List.replicate count quote.mark
      rw [rawText_append, rawText_plain, rawText_close, ← List.replicate_add, Nat.sub_add_cancel closing]
    · obtain ⟨⟨added, last⟩, plain, same⟩ := Option.map_eq_some_iff.mp ok
      cases same
      exact (plainly_accounts plain).after (rawText_plain count quote.mark)
  | escape raw =>
    simp only [advance] at ok
    split at ok
    · cases ok
      show rawText [_] ++ [] = raw ++ [c]
      rw [rawText_escape, List.append_nil]
    · cases ok
      rfl
    · split_ifs at ok
      cases ok
      rfl
  | digits raw wanted code =>
    simp only [advance] at ok
    split at ok
    · cases ok
    · split_ifs at ok
      · cases ok
        rfl
      · cases ok
        show rawText [_] ++ [] = raw ++ [c]
        rw [rawText_escape, List.append_nil]
  | trim raw ended =>
    simp only [advance] at ok
    split_ifs at ok
    · cases ok
      rfl
    · obtain ⟨⟨added, last⟩, plain, same⟩ := Option.map_eq_some_iff.mp ok
      cases same
      have accounts : Accounts quote (.trim raw ended) c ([.escape raw []] ++ added) last :=
        (plainly_accounts plain).after (rawText_escape raw [])
      exact accounts

/-- The strings read so far are in the text, and the one being read is at its end. -/
structure Held (text : List Char) (reading : Reading) : Prop where
  items : ∀ quote written, .string quote written ∈ reading.items → rawText written <:+: text
  mode : match reading.mode with
    | .code | .comment => True
    | .opening mark _ => [mark] <:+ text
    | .string quote written pending => rawText written ++ pending.raw quote <:+ text

variable {text : List Char} {items : List Item} {written : List Written}

theorem held_items (held : ∀ quote written, .string quote written ∈ items → rawText written <:+: text) :
    ∀ quote written, .string quote written ∈ items → rawText written <:+: text ++ [c] :=
  fun quote written member => (held quote written member).trans (List.prefix_append text [c]).isInfix

theorem held_item (held : ∀ quote written, .string quote written ∈ items → rawText written <:+: text)
    (last : rawText written <:+: text) :
    ∀ other units, .string other units ∈ items ++ [.string quote written] → rawText units <:+: text := by
  intro other units member
  rcases List.mem_append.mp member with member | member
  · exact held other units member
  · cases List.mem_singleton.mp member
    exact last

theorem readCode_held {after : Reading}
    (held : ∀ quote written, .string quote written ∈ items → rawText written <:+: text)
    (ok : readCode items c = some after) : Held (text ++ [c]) after := by
  unfold readCode at ok
  split_ifs at ok
  · cases ok
    exact ⟨held_items held, List.suffix_append text [c]⟩
  · cases ok
    exact ⟨held_items held, trivial⟩
  · cases ok
    refine ⟨fun quote written member => ?_, trivial⟩
    rcases List.mem_append.mp member with member | member
    · exact held_items held quote written member
    · cases List.mem_singleton.mp member

theorem readString_held {pending : Pending} {after : Reading}
    (held : ∀ quote written, .string quote written ∈ items → rawText written <:+: text)
    (last : rawText written ++ pending.raw quote <:+ text) (ok : readString items quote written pending c = some after) :
    Held (text ++ [c]) after := by
  have longer : rawText written ++ (pending.raw quote ++ [c]) <:+ text ++ [c] := by
    obtain ⟨before, rfl⟩ := last
    exact ⟨before, by simp only [List.append_assoc]⟩
  unfold readString at ok
  cases advanced : advance quote pending c with
  | none =>
    rw [advanced] at ok
    cases ok
  | some added =>
    obtain ⟨units, next⟩ := added
    rw [advanced] at ok
    have accounts := advance_accounts advanced
    cases next with
    | inside later =>
      cases ok
      refine ⟨held_items held, ?_⟩
      show rawText (written ++ units) ++ later.raw quote <:+ text ++ [c]
      rw [rawText_append, List.append_assoc, show rawText units ++ later.raw quote = _ from accounts]
      exact longer
    | closed =>
      cases ok
      refine ⟨held_item (held_items held) ?_, trivial⟩
      rw [rawText_append, show rawText units = _ from accounts]
      exact longer.isInfix
    | past =>
      refine readCode_held (held_item held ?_) ok
      rw [rawText_append, show rawText units = _ from accounts]
      exact last.isInfix

theorem read_held {reading after : Reading} (held : Held text reading) (ok : read reading c = some after) :
    Held (text ++ [c]) after := by
  obtain ⟨items, mode⟩ := reading
  obtain ⟨held, last⟩ := held
  simp only [read] at ok
  cases mode with
  | code => exact readCode_held held ok
  | comment =>
    simp only at ok
    split_ifs at ok
    · cases ok
      refine ⟨fun quote written member => ?_, trivial⟩
      rcases List.mem_append.mp member with member | member
      · exact held_items held quote written member
      · cases List.mem_singleton.mp member
    · cases ok
      exact ⟨held_items held, trivial⟩
  | opening mark count =>
    simp only at ok
    split_ifs at ok with same
    · cases ok
      exact ⟨held_items held, same ▸ List.suffix_append text [c]⟩
    · cases ok
      exact ⟨held_items held, List.nil_suffix⟩
    · have nothing : rawText [] ++ Pending.raw (singleOf mark) .none <:+ text := List.nil_suffix
      exact readString_held held nothing ok
    · have closed : rawText [.close mark] <:+: text := List.IsSuffix.isInfix last
      exact readCode_held (held_item held closed) ok
  | string quote written pending => exact readString_held held last ok

theorem foldlM_held {text rest : List Char} {reading after : Reading} (held : Held text reading)
    (ok : rest.foldlM read reading = some after) : Held (text ++ rest) after := by
  induction rest generalizing text reading with
  | nil =>
    cases ok
    rwa [List.append_nil]
  | cons c rest ih =>
    rw [List.foldlM_cons] at ok
    obtain ⟨middle, one, ok⟩ := Option.bind_eq_some_iff.mp ok
    rw [List.append_cons]
    exact ih (read_held held one) ok

/-- Every string of a document is part of its text, as it is written there. -/
theorem document_part (ok : document text = some items) (member : .string quote written ∈ items) :
    rawText written <:+: text := by
  obtain ⟨last, found, ok⟩ := Option.bind_eq_some_iff.mp ok
  have start : Held [] {} := ⟨fun _ _ member => absurd member List.not_mem_nil, trivial⟩
  have held : Held ([] ++ text) last := foldlM_held start found
  rw [List.nil_append] at held
  obtain ⟨found, mode⟩ := last
  obtain ⟨held, at_end⟩ := held
  simp only [finish] at ok
  cases mode with
  | code =>
    cases ok
    exact held quote written member
  | comment =>
    cases ok
    exact held quote written member
  | opening mark count =>
    simp only at ok
    split_ifs at ok
    cases ok
    have closed : rawText [.close mark] <:+: text := List.IsSuffix.isInfix at_end
    exact held_item held closed quote written member
  | string other units pending =>
    cases pending with
    | quotes count =>
      simp only at ok
      split_ifs at ok with closing
      cases ok
      refine held_item held ?_ quote written member
      rw [rawText_append, rawText_append, rawText_plain, rawText_close, ← List.replicate_add,
        Nat.sub_add_cancel closing]
      exact List.IsSuffix.isInfix at_end
    | _ => cases ok

end TomlText
