import Mathlib.Data.List.Induction
import Mathlib.Data.List.Perm.Basic
import Mathlib.Tactic.TypeStar

/-!
# Lists without two of a kind

Lists whose elements are told apart by a Boolean test for sameness.  The test is
symmetric and transitive, but an element need not be the same as itself.  The module
counts elements up to sameness and reads the union of two such lists as one list
followed by what the other one adds.
-/

namespace Lib

/-- A test for sameness is symmetric and transitive. -/
structure Sameness {α : Type*} (same : α → α → Bool) : Prop where
  symm : ∀ {a b}, same a b = true → same b a = true
  trans : ∀ {a b c}, same a b = true → same b c = true → same a c = true

namespace Distinct

variable {α : Type*} (same : α → α → Bool)

/-- A list has one of a kind. -/
def holds (list : List α) (a : α) : Bool :=
  list.any fun existing => same existing a

/-- A list has no two of a kind. -/
def AllDistinct (list : List α) : Prop :=
  list.Pairwise fun a b => same a b = false

instance (list : List α) : Decidable (AllDistinct same list) :=
  inferInstanceAs (Decidable (list.Pairwise _))

/-- Append each element that the list has no other of. -/
def union : List α → List α → List α
  | existing, [] => existing
  | existing, a :: rest =>
      if holds same existing a then union existing rest
      else union (existing ++ [a]) rest

/-- The elements of a list that another has none of. -/
def newcomers (existing added : List α) : List α :=
  added.filter fun a => !holds same existing a

section

variable {same} {list existing added : List α} {a b : α}

theorem holds_iff : holds same list a = true ↔ ∃ existing ∈ list, same existing a = true := by
  simp [holds]

theorem holds_eq_false_iff :
    holds same list a = false ↔ ∀ existing ∈ list, same existing a = false := by
  simp [holds]

theorem holds_append :
    holds same (existing ++ added) a = (holds same existing a || holds same added a) :=
  List.any_append

theorem mem_newcomers :
    a ∈ newcomers same existing added ↔ a ∈ added ∧ holds same existing a = false := by
  simp [newcomers]

theorem AllDistinct.sublist
    (distinct : AllDistinct same list)
    (sublist : added.Sublist list) :
    AllDistinct same added :=
  List.Pairwise.sublist sublist distinct

/-- What another list adds is told apart from what is there. -/
theorem AllDistinct.append
    (distinct : AllDistinct same existing)
    (addedDistinct : AllDistinct same added)
    (fresh : ∀ a ∈ added, holds same existing a = false) :
    AllDistinct same (existing ++ added) := by
  unfold AllDistinct
  rw [List.pairwise_append]
  refine ⟨distinct, addedDistinct, ?_⟩
  intro old oldMember a member
  exact holds_eq_false_iff.mp (fresh a member) old oldMember

theorem AllDistinct.perm
    (sameness : Sameness same)
    (distinct : AllDistinct same list)
    (perm : list.Perm added) :
    AllDistinct same added := by
  apply List.Pairwise.perm distinct perm
  intro a b different
  rw [Bool.eq_false_iff] at different ⊢
  exact fun isSame => different (sameness.symm isSame)

/-- Elements without two of a kind, all of them held by another list, are at most as
many as that list has. -/
theorem AllDistinct.length_le
    (sameness : Sameness same)
    (distinct : AllDistinct same added)
    (held : ∀ a ∈ added, holds same existing a = true) :
    added.length ≤ existing.length := by
  induction added generalizing existing with
  | nil => exact Nat.zero_le _
  | cons a rest inductionHypothesis =>
      obtain ⟨different, restDistinct⟩ := List.pairwise_cons.mp distinct
      obtain ⟨twin, member, isTwin⟩ := holds_iff.mp (held a List.mem_cons_self)
      obtain ⟨front, back, rfl⟩ := List.append_of_mem member
      have restHeld : ∀ b ∈ rest, holds same (front ++ back) b = true := by
        intro b inRest
        obtain ⟨other, otherMember, isOther⟩ :=
          holds_iff.mp (held b (List.mem_cons_of_mem _ inRest))
        refine holds_iff.mpr ⟨other, ?_, isOther⟩
        have notTwin : other ≠ twin := by
          rintro rfl
          have isSame := sameness.trans (sameness.symm isTwin) isOther
          rw [different b inRest] at isSame
          cases isSame
        simp only [List.mem_append, List.mem_cons] at otherMember ⊢
        tauto
      have shorter := inductionHypothesis restDistinct restHeld
      simp only [List.length_append, List.length_cons] at shorter ⊢
      omega

/-- The union has the list in front and the newcomers behind it. -/
theorem union_eq_append
    (distinct : AllDistinct same added) :
    union same existing added = existing ++ newcomers same existing added := by
  induction added generalizing existing with
  | nil => exact (List.append_nil existing).symm
  | cons a rest inductionHypothesis =>
      obtain ⟨different, restDistinct⟩ := List.pairwise_cons.mp distinct
      rw [union, newcomers, List.filter_cons]
      by_cases known : holds same existing a = true
      · rw [if_pos known, if_neg (by simp [known])]
        exact inductionHypothesis restDistinct
      · rw [if_neg known, if_pos (by simpa using known), inductionHypothesis restDistinct,
          List.append_assoc, List.singleton_append]
        congr 2
        apply List.filter_congr
        intro b inRest
        have apart : holds same [a] b = false := by
          simp [holds, different b inRest]
        rw [holds_append, apart, Bool.or_false]

theorem AllDistinct.newcomers
    (distinct : AllDistinct same added) :
    AllDistinct same (newcomers same existing added) :=
  distinct.sublist List.filter_sublist

theorem AllDistinct.union
    (distinct : AllDistinct same existing)
    (addedDistinct : AllDistinct same added) :
    AllDistinct same (union same existing added) := by
  rw [union_eq_append addedDistinct]
  exact distinct.append addedDistinct.newcomers fun a member => (mem_newcomers.mp member).2

/-- Elements may be added in two goes. -/
theorem union_append {later : List α} :
    union same existing (added ++ later) = union same (union same existing added) later := by
  induction added generalizing existing with
  | nil => rfl
  | cons a rest inductionHypothesis =>
      rw [List.cons_append, union, union]
      by_cases known : holds same existing a = true
      · rw [if_pos known, if_pos known, inductionHypothesis]
      · rw [if_neg known, if_neg known, inductionHypothesis]

theorem union_singleton :
    union same existing [a] = if holds same existing a then existing else existing ++ [a] :=
  rfl

/-- The union holds what either list holds. -/
theorem holds_union (sameness : Sameness same) :
    holds same (union same existing added) a =
      (holds same existing a || holds same added a) := by
  induction added generalizing existing with
  | nil => exact (Bool.or_false _).symm
  | cons b rest inductionHypothesis =>
      have split : holds same (b :: rest) a = (same b a || holds same rest a) := rfl
      rw [union, split]
      by_cases known : holds same existing b = true
      · rw [if_pos known, inductionHypothesis]
        cases isSame : same b a with
        | false => rfl
        | true =>
            obtain ⟨found, member, foundSame⟩ := holds_iff.mp known
            have held : holds same existing a = true :=
              holds_iff.mpr ⟨found, member, sameness.trans foundSame isSame⟩
            rw [held, Bool.true_or, Bool.true_or]
      · have single : holds same [b] a = same b a := by simp [holds]
        rw [if_neg known, inductionHypothesis, holds_append, single, Bool.or_assoc]

/-- Adding a list is adding what it has one of a kind of, in its order. -/
theorem union_union_nil (sameness : Sameness same) :
    union same existing (union same [] added) = union same existing added := by
  induction added using List.reverseRecOn with
  | nil => rfl
  | append_singleton front a inductionHypothesis =>
      rw [union_append, union_append, union_singleton, union_singleton,
        holds_union sameness, holds_union sameness]
      cases known : holds same front a with
      | true => simp [holds, inductionHypothesis]
      | false =>
          have fresh : holds same ([] : List α) a = false := rfl
          rw [fresh, Bool.or_false, if_neg Bool.false_ne_true, union_append,
            inductionHypothesis, union_singleton, holds_union sameness, known]

end

/-! ## Equality -/

section Equality

variable [DecidableEq α] {existing added later : List α} {a b : α}

/-- Append each element that a list does not have, in order. -/
def extend (existing added : List α) : List α :=
  union (· == ·) existing added

theorem sameness_beq : Sameness (α := α) (· == ·) where
  symm isSame := by
    rw [beq_iff_eq] at isSame ⊢
    exact isSame.symm
  trans first second := by
    rw [beq_iff_eq] at first second ⊢
    exact first.trans second

theorem holds_beq : holds (· == ·) existing a = true ↔ a ∈ existing := by
  simp [holds]

@[simp] theorem extend_nil : extend existing [] = existing := rfl

theorem extend_append : extend existing (added ++ later) = extend (extend existing added) later :=
  union_append

theorem extend_singleton :
    extend existing [a] = if a ∈ existing then existing else existing ++ [a] := by
  simp only [extend, union_singleton, holds_beq]

@[simp] theorem mem_extend : a ∈ extend existing added ↔ a ∈ existing ∨ a ∈ added := by
  rw [← holds_beq, extend, holds_union sameness_beq, Bool.or_eq_true, holds_beq, holds_beq]

theorem extend_extend_nil : extend existing (extend [] added) = extend existing added :=
  union_union_nil sameness_beq

/-- Starting from nothing, first occurrences stay. -/
theorem extend_nil_eq_eraseDups : extend [] added = added.eraseDups := by
  induction added using List.reverseRecOn with
  | nil => rfl
  | append_singleton front a inductionHypothesis =>
      rw [extend_append, extend_singleton, List.eraseDups_append, inductionHypothesis]
      by_cases known : a ∈ front
      · simp [known, List.removeAll]
      · simp [known, List.removeAll, List.eraseDups_cons]

/-- Two lists in a row have the first occurrences of both. -/
theorem extend_extend_eq_eraseDups :
    extend (extend [] existing) (extend [] added) =
      (extend [] existing ++ extend [] added).eraseDups := by
  have settled : extend [] (extend [] existing) = extend [] existing := extend_extend_nil
  rw [← extend_nil_eq_eraseDups, extend_append, settled]

end Equality

end Distinct
end Lib
