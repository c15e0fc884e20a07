import Mathlib.Tactic.TypeStar

/-!
# Scans for a preferred element

A scan walks a list and keeps the element it prefers so far.  Where the preference
is a strict partial order, the scan ends at a minimal element: none of those it saw
is preferred over its result.
-/

namespace Lib
namespace Scan

variable {α : Type*} (precedes : α → α → Bool)

/-- Walk a list, changing to each element that precedes the choice so far. -/
def pick (first : α) (rest : List α) : α :=
  rest.foldl (fun choice it => if precedes it choice then it else choice) first

@[simp] theorem pick_nil (first : α) : pick precedes first [] = first := rfl

@[simp] theorem pick_cons (first it : α) (rest : List α) :
    pick precedes first (it :: rest) =
      pick precedes (if precedes it first then it else first) rest := rfl

theorem pick_mem (first : α) (rest : List α) : pick precedes first rest ∈ first :: rest := by
  induction rest generalizing first with
  | nil => exact List.mem_cons_self
  | cons it rest inductionHypothesis =>
      rw [pick_cons]
      have member := inductionHypothesis (if precedes it first then it else first)
      rcases List.mem_cons.mp member with isChoice | later
      · rw [isChoice]
        split <;> simp
      · exact List.mem_cons_of_mem first (List.mem_cons_of_mem it later)

/-- The choice only changes to what precedes it. -/
theorem pick_eq_or_precedes
    (transitive : ∀ {a b c}, precedes a b = true → precedes b c = true →
      precedes a c = true)
    (first : α)
    (rest : List α) :
    pick precedes first rest = first ∨ precedes (pick precedes first rest) first = true := by
  induction rest generalizing first with
  | nil => exact .inl rfl
  | cons it rest inductionHypothesis =>
      rw [pick_cons]
      have later := inductionHypothesis (if precedes it first then it else first)
      by_cases preferred : precedes it first = true
      · rw [if_pos preferred] at later ⊢
        rcases later with stays | moves
        · rw [stays]
          exact .inr preferred
        · exact .inr (transitive moves preferred)
      · rw [if_neg preferred] at later ⊢
        exact later

/-- Nothing on the list precedes the result. -/
theorem pick_minimal
    (irreflexive : ∀ a, precedes a a = false)
    (transitive : ∀ {a b c}, precedes a b = true → precedes b c = true →
      precedes a c = true)
    {first it : α}
    {rest : List α}
    (member : it ∈ first :: rest) :
    precedes it (pick precedes first rest) = false := by
  induction rest generalizing first with
  | nil =>
      rw [List.mem_singleton.mp member, pick_nil]
      exact irreflexive first
  | cons next rest inductionHypothesis =>
      rw [pick_cons]
      have result := pick_eq_or_precedes precedes transitive
        (if precedes next first then next else first) rest
      by_cases preferred : precedes next first = true
      · rw [if_pos preferred] at result ⊢
        rcases List.mem_cons.mp member with rfl | later
        · rw [← Bool.not_eq_true]
          intro beats
          have cyclic : precedes next next = true := by
            rcases result with stays | moves
            · rw [stays] at beats
              exact transitive preferred beats
            · exact transitive preferred (transitive beats moves)
          rw [irreflexive] at cyclic
          cases cyclic
        · exact inductionHypothesis later
      · rw [if_neg preferred] at result ⊢
        rcases List.mem_cons.mp member with rfl | later
        · exact inductionHypothesis List.mem_cons_self
        · rcases List.mem_cons.mp later with rfl | later
          · rw [← Bool.not_eq_true]
            intro beats
            apply preferred
            rcases result with stays | moves
            · rwa [stays] at beats
            · exact transitive beats moves
          · exact inductionHypothesis (List.mem_cons_of_mem first later)

theorem pick_append (first : α) (earlier later : List α) :
    pick precedes first (earlier ++ later) =
      pick precedes (pick precedes first earlier) later :=
  List.foldl_append

/-- The first element is picked exactly if no other precedes it. -/
theorem pick_eq_first_iff
    {first : α}
    {rest : List α}
    (notMem : first ∉ rest) :
    pick precedes first rest = first ↔ ∀ it ∈ rest, precedes it first = false := by
  induction rest with
  | nil => simp
  | cons it rest inductionHypothesis =>
      rw [List.mem_cons, not_or] at notMem
      rw [pick_cons, List.forall_mem_cons]
      by_cases preferred : precedes it first = true
      · rw [if_pos preferred, preferred]
        refine iff_of_false (fun picked => ?_) fun both => by cases both.1
        have member := pick_mem precedes it rest
        rw [picked] at member
        exact (List.mem_cons.mp member).elim notMem.1 notMem.2
      · rw [if_neg preferred, inductionHypothesis notMem.2]
        rw [Bool.not_eq_true] at preferred
        exact (and_iff_right preferred).symm

/-- A later element is picked exactly if it precedes the choice that it meets, and none
after it precedes it. -/
theorem pick_append_cons_eq_iff
    {first it : α}
    {earlier later : List α}
    (notFirst : it ≠ first)
    (notEarlier : it ∉ earlier)
    (notLater : it ∉ later) :
    pick precedes first (earlier ++ it :: later) = it ↔
      precedes it (pick precedes first earlier) = true ∧
        ∀ other ∈ later, precedes other it = false := by
  rw [pick_append, pick_cons]
  have notChoice : pick precedes first earlier ≠ it := by
    intro chosen
    have member := pick_mem precedes first earlier
    rw [chosen] at member
    exact (List.mem_cons.mp member).elim notFirst notEarlier
  by_cases preferred : precedes it (pick precedes first earlier) = true
  · rw [if_pos preferred, pick_eq_first_iff precedes notLater]
    exact (and_iff_right preferred).symm
  · rw [if_neg preferred]
    refine iff_of_false (fun picked => ?_) fun both => preferred both.1
    have member := pick_mem precedes (pick precedes first earlier) later
    rw [picked] at member
    exact (List.mem_cons.mp member).elim (Ne.symm notChoice) notLater

end Scan
end Lib
