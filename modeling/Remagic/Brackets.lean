import Mathlib.Data.List.Basic
import Mathlib.Logic.Relation
import Mathlib.Tactic.Common

/-!
# Bracketed sequences

A sequence that opens, goes on for any number of steps and closes: what one
reader of it may have seen at any time, and what may happen to it when steps
from its inside are dropped on the way.
-/

namespace Brackets

inductive Part where
  | opening | inside | closing
deriving DecidableEq, Repr

def Open (l : List Part) : Prop := ∃ n, l = .opening :: List.replicate n .inside

def Closed (l : List Part) : Prop := ∃ n, l = .opening :: (List.replicate n .inside ++ [.closing])

/-- The beginning of a sequence that opens, goes on and closes. -/
def Partial (l : List Part) : Prop := ∃ n, l <+: .opening :: (List.replicate n .inside ++ [.closing])

/-- At most one step from the inside is missing. -/
def Thinned (l kept : List Part) : Prop := kept = l ∨ ∃ before after, l = before ++ .inside :: after ∧ kept = before ++ after

variable {l kept after : List Part}

theorem partial_nil : Partial [] := ⟨0, List.nil_prefix⟩

theorem Open.isPartial (holds : Open l) : Partial l := by
  obtain ⟨n, rfl⟩ := holds
  exact ⟨n, [.closing], rfl⟩

theorem Closed.isPartial (holds : Closed l) : Partial l := by
  obtain ⟨n, rfl⟩ := holds
  exact ⟨n, List.prefix_rfl⟩

theorem partial_iff : Partial l ↔ l = [] ∨ Open l ∨ Closed l := by
  constructor
  · rintro ⟨n, rest, same⟩
    cases l with
    | nil => exact .inl rfl
    | cons first others =>
      rw [List.cons_append, List.cons.injEq] at same
      obtain ⟨rfl, same⟩ := same
      right
      -- Either the closing step is the last one of the rest, or there is no rest.
      rcases List.eq_nil_or_concat rest with rfl | ⟨more, last, rfl⟩
      · exact .inr ⟨n, by rw [← same, List.append_nil]⟩
      · left
        rw [List.concat_eq_append, ← List.append_assoc] at same
        have middle := (List.append_inj' same rfl).1
        have inside : others = List.replicate others.length .inside :=
          List.eq_replicate_of_mem fun part member =>
            List.eq_of_mem_replicate (middle ▸ List.mem_append_left more member)
        exact ⟨others.length, congrArg (Part.opening :: ·) inside⟩
  · rintro (rfl | holds | holds)
    · exact partial_nil
    · exact holds.isPartial
    · exact holds.isPartial

theorem open_opening : Open [.opening] := ⟨0, rfl⟩

theorem Open.goes_on (holds : Open l) : Open (l ++ [.inside]) := by
  obtain ⟨n, rfl⟩ := holds
  exact ⟨n + 1, by rw [List.replicate_succ', List.cons_append]⟩

theorem Open.closes (holds : Open l) : Closed (l ++ [.closing]) := by
  obtain ⟨n, rfl⟩ := holds
  exact ⟨n, rfl⟩

/-- A step from the inside of an opened sequence is one of its repetitions. -/
theorem thinned_replicate {n : Nat} {first : Part} {tail before after : List Part} (outside : first ≠ .inside)
    (ends : tail = [] ∨ tail = [.closing])
    (same : first :: (List.replicate n .inside ++ tail) = before ++ Part.inside :: after) :
    ∃ m, before ++ after = first :: (List.replicate m .inside ++ tail) := by
  cases before with
  | nil =>
    rw [List.nil_append, List.cons.injEq] at same
    exact absurd same.1 outside
  | cons head before =>
    rw [List.cons_append, List.cons.injEq] at same
    obtain ⟨rfl, same⟩ := same
    induction n generalizing before with
    | zero =>
      rcases ends with rfl | rfl
      · simp at same
      · cases before with
        | nil => simp at same
        | cons head before => simp at same
    | succ n ih =>
      cases before with
      | nil =>
        rw [List.replicate_succ, List.cons_append, List.nil_append, List.cons.injEq] at same
        exact ⟨n, by rw [List.cons_append, List.nil_append, same.2]⟩
      | cons head before =>
        rw [List.replicate_succ, List.cons_append, List.cons_append, List.cons.injEq] at same
        obtain ⟨rfl, same⟩ := same
        obtain ⟨m, shorter⟩ := ih before same
        refine ⟨m + 1, ?_⟩
        rw [List.cons_append, List.cons.injEq] at shorter
        rw [List.cons_append, List.cons_append, shorter.2, List.replicate_succ, List.cons_append]

theorem Open.thinned (holds : Open l) (thinned : Thinned l kept) : Open kept := by
  rcases thinned with rfl | ⟨before, after, same, rfl⟩
  · exact holds
  · obtain ⟨n, rfl⟩ := holds
    rw [← List.append_nil (List.replicate n Part.inside)] at same
    obtain ⟨m, shorter⟩ := thinned_replicate (by decide) (.inl rfl) same
    exact ⟨m, by rw [shorter, List.append_nil]⟩

theorem Closed.thinned (holds : Closed l) (thinned : Thinned l kept) : Closed kept := by
  rcases thinned with rfl | ⟨before, after, same, rfl⟩
  · exact holds
  · obtain ⟨n, rfl⟩ := holds
    exact thinned_replicate (by decide) (.inr rfl) same

theorem Partial.thinned (holds : Partial l) (thinned : Thinned l kept) : Partial kept := by
  rcases partial_iff.mp holds with rfl | opened | closed
  · rcases thinned with rfl | ⟨before, after, same, rfl⟩
    · exact partial_nil
    · simp at same
  · exact (opened.thinned thinned).isPartial
  · exact (closed.thinned thinned).isPartial

theorem Thinned.sublist (thinned : Thinned l kept) : kept.Sublist l := by
  rcases thinned with rfl | ⟨before, after, rfl, rfl⟩
  · exact List.Sublist.refl _
  · exact (List.sublist_cons_self _ _).append_left before

/-! ## Any number of missing steps -/

/-- Steps from the inside are missing. -/
def Trimmed (l kept : List Part) : Prop := Relation.ReflTransGen Thinned l kept

/-- One part more was seen, and steps from the inside before it are missing. -/
def Heard (l after : List Part) (part : Part) : Prop := ∃ kept, Trimmed l kept ∧ after = kept ++ [part]

theorem Trimmed.refl (l : List Part) : Trimmed l l := Relation.ReflTransGen.refl

theorem Thinned.trimmed (thinned : Thinned l kept) : Trimmed l kept := .single thinned

theorem Trimmed.trans {less : List Part} (first : Trimmed l kept) (second : Trimmed kept less) : Trimmed l less :=
  Relation.ReflTransGen.trans first second

theorem Trimmed.sublist (trimmed : Trimmed l kept) : kept.Sublist l := by
  induction trimmed with
  | refl => exact List.Sublist.refl l
  | tail _ thinned ih => exact thinned.sublist.trans ih

theorem Trimmed.eq_nil (trimmed : Trimmed [] kept) : kept = [] := List.eq_nil_of_sublist_nil trimmed.sublist

theorem Open.trimmed (holds : Open l) (trimmed : Trimmed l kept) : Open kept := by
  induction trimmed with
  | refl => exact holds
  | tail _ thinned ih => exact ih.thinned thinned

theorem Partial.trimmed (holds : Partial l) (trimmed : Trimmed l kept) : Partial kept := by
  induction trimmed with
  | refl => exact holds
  | tail _ thinned ih => exact ih.thinned thinned

theorem Heard.of_trimmed {part : Part} (trimmed : Trimmed l kept) (heard : Heard kept after part) :
    Heard l after part := by
  obtain ⟨rest, more, rfl⟩ := heard
  exact ⟨rest, trimmed.trans more, rfl⟩

theorem Heard.goes_on (holds : Open l) (heard : Heard l after .inside) : Open after := by
  obtain ⟨kept, trimmed, rfl⟩ := heard
  exact (holds.trimmed trimmed).goes_on

theorem Heard.closes (holds : Open l) (heard : Heard l after .closing) : Closed after := by
  obtain ⟨kept, trimmed, rfl⟩ := heard
  exact (holds.trimmed trimmed).closes

/-- The next part of an opened sequence, or the first part of an empty one. -/
theorem Heard.next {part : Part} (ready : part = .opening ∧ l = [] ∨ part ≠ .opening ∧ Open l)
    (heard : Heard l after part) : (part ≠ .closing → Open after) ∧ (part = .closing → Closed after) := by
  rcases ready with ⟨rfl, rfl⟩ | ⟨later, holds⟩
  · obtain ⟨kept, trimmed, rfl⟩ := heard
    rw [trimmed.eq_nil]
    exact ⟨fun _ => open_opening, nofun⟩
  · cases part with
    | opening => exact absurd rfl later
    | inside => exact ⟨fun _ => heard.goes_on holds, nofun⟩
    | closing => exact ⟨fun still => absurd rfl still, fun _ => heard.closes holds⟩

theorem Heard.sublist {part : Part} (heard : Heard l after part) : after.Sublist (l ++ [part]) := by
  obtain ⟨kept, trimmed, rfl⟩ := heard
  exact trimmed.sublist.append_right [part]

/-- A closing step is never missing once it was seen. -/
theorem Heard.trimmed {after later : List Part} (heard : Heard l after .closing) (trimmed : Trimmed after later) :
    Heard l later .closing := by
  induction trimmed with
  | refl => exact heard
  | tail _ thinned ih =>
    obtain ⟨rest, before, rfl⟩ := ih
    rcases thinned with rfl | ⟨first, second, same, rfl⟩
    · exact ⟨rest, before, rfl⟩
    rcases List.eq_nil_or_concat second with rfl | ⟨second, last, rfl⟩
    · have ends := (List.append_inj' same rfl).2
      simp at ends
    · rw [List.concat_eq_append, ← List.cons_append, ← List.append_assoc] at same
      obtain ⟨rfl, ends⟩ := List.append_inj' same rfl
      refine ⟨first ++ second, before.trans (Thinned.trimmed (.inr ⟨first, second, rfl, rfl⟩)), ?_⟩
      rw [List.concat_eq_append, ← ends, List.append_assoc]

end Brackets
