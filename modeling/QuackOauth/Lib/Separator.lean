import Mathlib.Data.List.Basic
import Mathlib.Tactic.TypeStar

/-!
# Cutting lists at a separator

A list is cut at the first or at the last occurrence of an element, or at the first
occurrence of a pattern.
-/

namespace Lib
namespace Separator

variable {α : Type*} [DecidableEq α] {separator : α} {list front back : List α}

/-- The parts before and behind the first separator. -/
def cutFirst (separator : α) : List α → Option (List α × List α)
  | [] => none
  | a :: rest =>
      if a = separator then some ([], rest)
      else (cutFirst separator rest).map fun (front, back) => (a :: front, back)

/-- The parts before and behind the last separator. -/
def cutLast (separator : α) : List α → Option (List α × List α)
  | [] => none
  | a :: rest =>
      match cutLast separator rest with
      | some (front, back) => some (a :: front, back)
      | none => if a = separator then some ([], rest) else none

/-- The parts before and behind the first occurrence of a pattern. -/
def cutAt (pattern : List α) : List α → Option (List α × List α)
  | [] => none
  | a :: rest =>
      if pattern.isPrefixOf (a :: rest) then some ([], (a :: rest).drop pattern.length)
      else (cutAt pattern rest).map fun (front, back) => (a :: front, back)

theorem cutLast_eq_none_iff : cutLast separator list = none ↔ separator ∉ list := by
  induction list with
  | nil => simp [cutLast]
  | cons a rest inductionHypothesis =>
      rw [cutLast, List.mem_cons, not_or]
      cases later : cutLast separator rest with
      | none =>
          have absent := inductionHypothesis.mp later
          by_cases isSeparator : a = separator
          · simp [isSeparator]
          · simp [isSeparator, Ne.symm isSeparator, absent]
      | some parts =>
          have present : separator ∈ rest := by
            by_contra absent
            rw [inductionHypothesis.mpr absent] at later
            cases later
          simp [present]

/-- Nothing before the first separator is one. -/
theorem cutFirst_eq_some_iff :
    cutFirst separator list = some (front, back) ↔
      list = front ++ separator :: back ∧ separator ∉ front := by
  induction list generalizing front back with
  | nil => simp [cutFirst]
  | cons a rest inductionHypothesis =>
      rw [cutFirst]
      by_cases isSeparator : a = separator
      · subst isSeparator
        cases front with
        | nil => simp
        | cons first front =>
            simp only [if_true, Option.some.injEq, Prod.mk.injEq, reduceCtorEq, false_and,
              List.cons_append, List.cons.injEq, List.mem_cons, not_or, false_iff]
            rintro ⟨⟨same, -⟩, different, -⟩
            exact different same
      · cases front with
        | nil => simp [isSeparator]
        | cons first front =>
            simp only [if_neg isSeparator, Option.map_eq_some_iff, Prod.exists,
              Prod.mk.injEq, List.cons.injEq, List.cons_append, List.mem_cons, not_or]
            constructor
            · rintro ⟨_, _, found, ⟨rfl, rfl⟩, rfl⟩
              obtain ⟨rfl, absent⟩ := inductionHypothesis.mp found
              exact ⟨⟨rfl, rfl⟩, Ne.symm isSeparator, absent⟩
            · rintro ⟨⟨rfl, rest_eq⟩, -, absent⟩
              exact ⟨_, _, inductionHypothesis.mpr ⟨rest_eq, absent⟩, ⟨rfl, rfl⟩, rfl⟩

/-- Nothing behind the last separator is one. -/
theorem cutLast_eq_some_iff :
    cutLast separator list = some (front, back) ↔
      list = front ++ separator :: back ∧ separator ∉ back := by
  induction list generalizing front back with
  | nil => simp [cutLast]
  | cons a rest inductionHypothesis =>
      rw [cutLast]
      cases later : cutLast separator rest with
      | none =>
          have absent := cutLast_eq_none_iff.mp later
          cases front with
          | nil =>
              by_cases isSeparator : a = separator
              · subst isSeparator
                simp only [if_true, Option.some.injEq, Prod.mk.injEq, true_and,
                  List.nil_append, List.cons.injEq]
                exact ⟨fun same => ⟨same, same ▸ absent⟩, And.left⟩
              · simp [isSeparator]
          | cons first front =>
              have impossible : rest ≠ front ++ separator :: back := by
                rintro rfl
                simp at absent
              by_cases isSeparator : a = separator
              · simp [isSeparator, impossible]
              · simp [isSeparator, impossible]
      | some parts =>
          obtain ⟨laterFront, laterBack⟩ := parts
          cases front with
          | nil =>
              obtain ⟨rfl, -⟩ := inductionHypothesis.mp later
              simp only [Option.some.injEq, Prod.mk.injEq, List.cons_ne_nil, false_and,
                List.nil_append, List.cons.injEq, false_iff, not_and, not_not]
              rintro ⟨-, rfl⟩
              simp
          | cons first front =>
              simp only [Option.some.injEq, Prod.mk.injEq, List.cons.injEq, List.cons_append]
              constructor
              · rintro ⟨⟨rfl, rfl⟩, rfl⟩
                obtain ⟨rest_eq, absent⟩ := inductionHypothesis.mp later
                exact ⟨⟨rfl, rest_eq⟩, absent⟩
              · rintro ⟨⟨rfl, rest_eq⟩, absent⟩
                have found := inductionHypothesis.mpr ⟨rest_eq, absent⟩
                rw [later, Option.some.injEq, Prod.mk.injEq] at found
                exact ⟨⟨rfl, found.1⟩, found.2⟩

/-! ## Cuts of the same list -/

section Cuts

variable {otherFront otherBack tag : List α}

omit [DecidableEq α] in
/-- Two cuts of a list at a separator are the same, or one of them cuts what the other
leaves in front. -/
theorem append_separator_eq_iff :
    front ++ separator :: back = otherFront ++ separator :: otherBack ↔
      (front = otherFront ∧ back = otherBack) ∨
        (∃ between, front = otherFront ++ separator :: between ∧
          otherBack = between ++ separator :: back) ∨
        ∃ between, otherFront = front ++ separator :: between ∧
          back = between ++ separator :: otherBack := by
  induction front generalizing otherFront with
  | nil =>
      cases otherFront with
      | nil => simp
      | cons a rest => simp [eq_comm]
  | cons a rest inductionHypothesis =>
      cases otherFront with
      | nil => simp [eq_comm]
      | cons b otherRest =>
          simp only [List.cons_append, List.cons.injEq, and_assoc, inductionHypothesis,
            exists_and_left, ← and_or_left, eq_comm]

omit [DecidableEq α] in
/-- A list is cut at its last separator in one way. -/
theorem append_separator_inj_of_last
    (absent : separator ∉ back)
    (otherAbsent : separator ∉ otherBack)
    (equal : front ++ separator :: back = otherFront ++ separator :: otherBack) :
    front = otherFront ∧ back = otherBack := by
  rcases append_separator_eq_iff.mp equal with same | ⟨between, -, rfl⟩ | ⟨between, -, rfl⟩
  · exact same
  · exact absurd (List.mem_append_right _ List.mem_cons_self) otherAbsent
  · exact absurd (List.mem_append_right _ List.mem_cons_self) absent

omit [DecidableEq α] in
/-- A list is cut at its first separator in one way. -/
theorem append_separator_inj_of_first
    (absent : separator ∉ front)
    (otherAbsent : separator ∉ otherFront)
    (equal : front ++ separator :: back = otherFront ++ separator :: otherBack) :
    front = otherFront ∧ back = otherBack := by
  rcases append_separator_eq_iff.mp equal with same | ⟨between, rfl, -⟩ | ⟨between, rfl, -⟩
  · exact same
  · exact absurd (List.mem_append_right _ List.mem_cons_self) absent
  · exact absurd (List.mem_append_right _ List.mem_cons_self) otherAbsent

omit [DecidableEq α] in
/-- A cut behind a tag without a separator. -/
theorem append_separator_eq_append_iff
    (absent : separator ∉ tag) :
    front ++ separator :: back = tag ++ otherBack ↔
      ∃ between, front = tag ++ between ∧ otherBack = between ++ separator :: back := by
  induction tag generalizing front with
  | nil => simp [eq_comm]
  | cons a rest inductionHypothesis =>
      rw [List.mem_cons, not_or] at absent
      cases front with
      | nil => simp [absent.1]
      | cons b frontRest =>
          simp [inductionHypothesis absent.2, and_assoc]

end Cuts

end Separator
end Lib
