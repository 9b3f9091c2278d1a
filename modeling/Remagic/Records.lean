import Mathlib.Data.List.Basic
import Mathlib.Tactic.Ring

/-!
# Records in one text

Records are written one after another into one text: a separator stands between the
fields of a record, and a stop ends its last field. No field holds the separator and
the last field of a record does not hold the stop, but its first field may. Equal
texts then have equal records; and where something stands before the records that may
hold the separator too, one of the texts still has the records of the other.
-/

namespace Records

/-- A record of a first field, some fields in the middle and a last field. -/
@[ext] structure Record (α : Type) where
  first : List α
  middle : List (List α)
  last : List α

variable {α : Type} (sep stop : α)

def Record.text (record : Record α) : List α :=
  record.first ++ sep :: record.middle.flatMap (· ++ [sep]) ++ record.last ++ [stop]

/-- The records as one text. -/
def body (records : List (Record α)) : List α := records.flatMap (Record.text sep stop)

/-- A record with so many fields in the middle that can be told from its text. -/
structure Record.Proper (count : Nat) (record : Record α) : Prop where
  first : sep ∉ record.first
  middle : ∀ field ∈ record.middle, sep ∉ field
  last : sep ∉ record.last
  ends : stop ∉ record.last
  length : record.middle.length = count

/-- What stands between the separators of the records' text, after something carried. -/
def pieces (carried : List α) : List (Record α) → List (List α)
  | [] => [carried]
  | record :: rest => (carried ++ record.first) :: record.middle ++ pieces (record.last ++ [stop]) rest

variable {sep stop} {count : Nat} {left right : List (Record α)} {carried other : List α}

theorem length_pieces (proper : ∀ record ∈ left, record.Proper sep stop count) :
    (pieces stop carried left).length = (count + 1) * left.length + 1 := by
  induction left generalizing carried with
  | nil => rfl
  | cons record rest ih =>
    have length := (proper record List.mem_cons_self).length
    have later : (pieces stop (record.last ++ [stop]) rest).length = (count + 1) * rest.length + 1 :=
      ih fun one member => proper one (List.mem_cons_of_mem _ member)
    simp only [pieces, List.cons_append, List.length_cons, List.length_append, length, later]
    ring

section
variable [DecidableEq α]

theorem splitOn_fields {fields : List (List α)} {rest : List α} (free : ∀ field ∈ fields, sep ∉ field) :
    (fields.flatMap (· ++ [sep]) ++ rest).splitOn sep = fields ++ rest.splitOn sep := by
  induction fields with
  | nil => rfl
  | cons field fields ih =>
    have later := ih fun one member => free one (List.mem_cons_of_mem _ member)
    rw [List.flatMap_cons, List.append_assoc, List.append_assoc, List.singleton_append,
      List.splitOn_append_cons_self_of_not_mem (free field List.mem_cons_self), later]
    rfl

/-- The records' text splits at its separators into the pieces. -/
theorem splitOn_body (apart : sep ≠ stop) (proper : ∀ record ∈ left, record.Proper sep stop count)
    (free : sep ∉ carried) : (carried ++ body sep stop left).splitOn sep = pieces stop carried left := by
  induction left generalizing carried with
  | nil => simpa [body, pieces] using List.splitOn_eq_singleton free
  | cons record rest ih =>
    obtain ⟨first, middle, last, -, -⟩ := proper record List.mem_cons_self
    have ended : sep ∉ record.last ++ [stop] := by simp [last, apart]
    have later := ih (fun one member => proper one (List.mem_cons_of_mem _ member)) ended
    have start : sep ∉ carried ++ record.first := by simp [free, first]
    have spelled : carried ++ body sep stop (record :: rest) = (carried ++ record.first) ++
        sep :: (record.middle.flatMap (· ++ [sep]) ++ ((record.last ++ [stop]) ++ body sep stop rest)) := by
      simp [body, Record.text]
    rw [spelled, List.splitOn_append_cons_self_of_not_mem start, splitOn_fields middle, later]
    rfl

end

theorem append_stop_inj {rest more : List α} (free : stop ∉ carried) (clear : stop ∉ other)
    (same : carried ++ stop :: rest = other ++ stop :: more) : carried = other ∧ rest = more := by
  induction carried generalizing other with
  | nil =>
    cases other with
    | nil => exact ⟨rfl, (List.cons.inj same).2⟩
    | cons first other =>
      obtain ⟨rfl, -⟩ := List.cons.inj same
      exact absurd List.mem_cons_self clear
  | cons first carried ih =>
    cases other with
    | nil =>
      obtain ⟨rfl, -⟩ := List.cons.inj same
      exact absurd List.mem_cons_self free
    | cons second other =>
      obtain ⟨rfl, later⟩ := List.cons.inj same
      obtain ⟨rfl, rfl⟩ := ih (List.not_mem_of_not_mem_cons free) (List.not_mem_of_not_mem_cons clear) later
      exact ⟨rfl, rfl⟩

/-- The pieces tell the records and what ended before them. -/
theorem pieces_inj (proper : ∀ record ∈ left, record.Proper sep stop count)
    (fit : ∀ record ∈ right, record.Proper sep stop count) (free : stop ∉ carried) (clear : stop ∉ other)
    (same : pieces stop (carried ++ [stop]) left = pieces stop (other ++ [stop]) right) :
    carried = other ∧ left = right := by
  have even : left.length = right.length := by
    have lengths := congrArg List.length same
    rw [length_pieces proper, length_pieces fit] at lengths
    exact Nat.eq_of_mul_eq_mul_left (Nat.succ_pos count) (Nat.add_right_cancel lengths)
  induction left generalizing carried other right with
  | nil =>
    obtain rfl := List.length_eq_zero_iff.mp even.symm
    exact ⟨List.append_cancel_right (List.cons.inj same).1, rfl⟩
  | cons record rest ih =>
    cases right with
    | nil => simp at even
    | cons one others =>
      obtain ⟨start, later⟩ := List.cons.inj same
      obtain ⟨rfl, firsts⟩ := append_stop_inj free clear (by simpa using start)
      have recordFits := proper record List.mem_cons_self
      have oneFits := fit one List.mem_cons_self
      obtain ⟨middles, tails⟩ := List.append_inj later (recordFits.length.trans oneFits.length.symm)
      have restFits : ∀ one ∈ rest, one.Proper sep stop count := fun _ member => proper _ (List.mem_cons_of_mem _ member)
      have othersFit : ∀ one ∈ others, one.Proper sep stop count := fun _ member => fit _ (List.mem_cons_of_mem _ member)
      obtain ⟨lasts, rfl⟩ := ih restFits othersFit recordFits.ends oneFits.ends tails
        (by simpa using even)
      obtain rfl := Record.ext firsts middles lasts
      exact ⟨rfl, rfl⟩

/-- Carrying something only lengthens the first piece. -/
theorem pieces_carried : pieces stop carried left = (pieces stop [] left).modifyHead (carried ++ ·) := by
  cases left with
  | nil => simp [pieces]
  | cons record rest => simp [pieces]

theorem mem_head_or_tail {record : Record α} (member : record ∈ left) : record ∈ left.head? ∨ record ∈ left.tail := by
  cases left with
  | nil => exact absurd member List.not_mem_nil
  | cons one rest =>
    rcases List.mem_cons.mp member with rfl | later
    · exact .inl rfl
    · exact .inr later

/-- Records carrying a stop read as other records: these begin with a stop, and from the
    second on the two are the same. -/
theorem tail_of_pieces (proper : ∀ record ∈ left, record.Proper sep stop count)
    (fit : ∀ record ∈ right, record.Proper sep stop count)
    (same : pieces stop (carried ++ [stop]) left = pieces stop [] right) :
    (∀ record ∈ right.head?, stop ∈ record.first) ∧ left.tail = right.tail := by
  have even : left.length = right.length := by
    have lengths := congrArg List.length same
    rw [length_pieces proper, length_pieces fit] at lengths
    exact Nat.eq_of_mul_eq_mul_left (Nat.succ_pos count) (Nat.add_right_cancel lengths)
  cases left with
  | nil =>
    obtain rfl := List.length_eq_zero_iff.mp even.symm
    exact ⟨fun _ none => absurd none (by simp), rfl⟩
  | cons one rest =>
    cases right with
    | nil => simp at even
    | cons record others =>
      obtain ⟨start, later⟩ := List.cons.inj same
      have oneFits := proper one List.mem_cons_self
      have recordFits := fit record List.mem_cons_self
      obtain ⟨-, tails⟩ := List.append_inj later (oneFits.length.trans recordFits.length.symm)
      obtain ⟨-, rests⟩ := pieces_inj (fun _ member => proper _ (List.mem_cons_of_mem _ member))
        (fun _ member => fit _ (List.mem_cons_of_mem _ member)) oneFits.ends recordFits.ends tails
      refine ⟨?_, rests⟩
      intro first found
      obtain rfl : record = first := by simpa using found
      rw [List.nil_append] at start
      simp [← start]

/-- Pieces that end in the pieces of other records: at the first of these the two fall
    into step, so all of the others that do not begin with a stop are among the records. -/
theorem mem_of_pieces_append {before : List (List α)} (some : before ≠ [])
    (proper : ∀ record ∈ left, record.Proper sep stop count) (fit : ∀ record ∈ right, record.Proper sep stop count)
    (same : pieces stop carried left = before ++ pieces stop [] right) {record : Record α} (member : record ∈ right)
    (clear : stop ∉ record.first) : record ∈ left := by
  induction left generalizing carried before with
  | nil =>
    have lengths := congrArg List.length same
    have positive := List.length_pos_iff.mpr some
    rw [List.length_append, length_pieces fit] at lengths
    simp only [pieces, List.length_singleton] at lengths
    omega
  | cons one rest ih =>
    have oneFits := proper one List.mem_cons_self
    have restFits : ∀ one ∈ rest, one.Proper sep stop count := fun _ member => proper _ (List.mem_cons_of_mem _ member)
    -- so many pieces stand before the others that the whole first record is among them
    have long : count + 1 ≤ before.length := by
      have lengths := congrArg List.length same
      have positive := List.length_pos_iff.mpr some
      rw [List.length_append, length_pieces proper, length_pieces fit] at lengths
      have multiple : (count + 1) ∣ before.length := by
        rw [← Nat.dvd_add_left (Nat.dvd_mul_right (count + 1) right.length)]
        exact ⟨(one :: rest).length, by omega⟩
      exact Nat.le_of_dvd positive multiple
    obtain ⟨after, rfl⟩ : (carried ++ one.first) :: one.middle <+: before := by
      have pieced : (carried ++ one.first) :: one.middle <+: pieces stop carried (one :: rest) := List.prefix_append ..
      exact List.prefix_of_prefix_length_le pieced ⟨_, same.symm⟩ (by simpa [oneFits.length] using long)
    have later : pieces stop (one.last ++ [stop]) rest = after ++ pieces stop [] right := by
      rw [pieces, List.append_assoc] at same
      exact List.append_cancel_left same
    by_cases ended : after = []
    · subst ended
      obtain ⟨stopped, tails⟩ := tail_of_pieces restFits fit later
      rcases mem_head_or_tail member with head | tail
      · exact absurd (stopped record head) clear
      · exact List.mem_cons_of_mem _ (List.mem_of_mem_tail (tails ▸ tail))
    · exact List.mem_cons_of_mem _ (ih ended restFits later)

section
variable [DecidableEq α] (apart : sep ≠ stop) (proper : ∀ record ∈ left, record.Proper sep stop count)
  (fit : ∀ record ∈ right, record.Proper sep stop count)
include apart proper fit

/-- Equal texts have equal records. -/
theorem body_injective (same : body sep stop left = body sep stop right) : left = right := by
  have pieced : pieces stop [] left = pieces stop [] right := by
    rw [← splitOn_body apart proper List.not_mem_nil, ← splitOn_body apart fit List.not_mem_nil, List.nil_append,
      List.nil_append, same]
  have carried : pieces stop ([] ++ [stop]) left = pieces stop ([] ++ [stop]) right := by
    rw [pieces_carried, pieced, ← pieces_carried]
  exact (pieces_inj proper fit List.not_mem_nil List.not_mem_nil carried).2

/-- Records after something longer: all of them that do not begin with a stop are in
    what stands after something shorter. -/
theorem mem_of_body_append {before : List α} (same : body sep stop left = before ++ sep :: body sep stop right)
    {record : Record α} (member : record ∈ right) (clear : stop ∉ record.first) : record ∈ left := by
  have pieced : pieces stop [] left = before.splitOn sep ++ pieces stop [] right := by
    rw [← splitOn_body apart proper List.not_mem_nil, ← splitOn_body apart fit List.not_mem_nil, List.nil_append,
      List.nil_append, same, List.splitOn_append_cons_self]
  exact mem_of_pieces_append (List.splitOn_ne_nil sep before) proper fit pieced member clear

end

/-- Where equal texts begin with anything, one of them has every record of the other that
    does not begin with a stop. -/
theorem shared_of_append_body [DecidableEq α] (apart : sep ≠ stop)
    (proper : ∀ record ∈ left, record.Proper sep stop count) (fit : ∀ record ∈ right, record.Proper sep stop count)
    (same : carried ++ sep :: body sep stop left = other ++ sep :: body sep stop right) :
    (∀ record ∈ right, stop ∉ record.first → record ∈ left) ∨
      ∀ record ∈ left, stop ∉ record.first → record ∈ right := by
  rcases List.append_eq_append_iff.mp same with ⟨more, rfl, rest⟩ | ⟨more, rfl, rest⟩
  · cases more with
    | nil =>
      obtain rfl := body_injective apart proper fit (List.cons.inj rest).2
      exact .inl fun record member _ => member
    | cons first more =>
      obtain ⟨rfl, later⟩ := List.cons.inj rest
      exact .inl fun record => mem_of_body_append apart proper fit later
  · cases more with
    | nil =>
      obtain rfl := body_injective apart proper fit (List.cons.inj rest).2.symm
      exact .inl fun record member _ => member
    | cons first more =>
      obtain ⟨rfl, later⟩ := List.cons.inj rest
      exact .inr fun record => mem_of_body_append apart fit proper later

end Records
