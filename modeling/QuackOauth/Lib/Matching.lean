import Mathlib.Data.List.Perm.Basic
import QuackOauth.Lib.Distinct

/-!
# Lists that match up to sameness

Two lists match if one of them can be put in an order in which its elements are the same
as those of the other.  Whether they do is found out by removing for each element of the
one the first element of the other that is the same; no choice has to be taken back.
-/

namespace Lib
namespace Matching

variable {α : Type*} (same : α → α → Bool)

/-- Remove for each element in turn the first one that is the same. -/
def removeEach : List α → List α → Bool
  | [], _ => true
  | a :: rest, remaining =>
      match remaining.find? (same a) with
      | none => false
      | some _ => removeEach rest (remaining.eraseP (same a))

/-- The elements are the same, one by one. -/
abbrev Alike : List α → List α → Prop :=
  List.Forall₂ fun a b => same a b = true

/-- The elements are the same, in some order. -/
def Matched (list other : List α) : Prop :=
  ∃ ordered, ordered.Perm other ∧ Alike same list ordered

variable {same} {list other later front back : List α} {a b : α}

theorem Alike.trans
    (sameness : Sameness same)
    (first : Alike same list other)
    (second : Alike same other later) :
    Alike same list later := by
  induction first generalizing later with
  | nil => exact second
  | cons isSame _ inductionHypothesis =>
      cases second with
      | cons nextSame rest =>
          exact .cons (sameness.trans isSame nextSame) (inductionHypothesis rest)

theorem Alike.symm
    (sameness : Sameness same)
    (alike : Alike same list other) :
    Alike same other list :=
  (alike.imp fun _ _ isSame => sameness.symm isSame).flip

/-- One element may stand in for another one that is the same. -/
theorem Alike.replace
    (sameness : Sameness same)
    (isSame : same a b = true)
    (alike : Alike same list (front ++ a :: back)) :
    Alike same list (front ++ b :: back) := by
  induction front generalizing list with
  | nil =>
      cases alike with
      | cons first rest => exact .cons (sameness.trans first isSame) rest
  | cons c front inductionHypothesis =>
      cases alike with
      | cons first rest => exact .cons first (inductionHypothesis rest)

/-! ## Matching is an equality -/

theorem Matched.refl
    (reflexive : ∀ a ∈ list, same a a = true) :
    Matched same list list :=
  ⟨list, .refl list, List.forall₂_same.mpr reflexive⟩

theorem Matched.perm_right
    (matched : Matched same list other)
    (perm : other.Perm later) :
    Matched same list later := by
  obtain ⟨ordered, ordered_perm, alike⟩ := matched
  exact ⟨ordered, ordered_perm.trans perm, alike⟩

theorem Matched.perm_left
    (matched : Matched same list other)
    (perm : list.Perm later) :
    Matched same later other := by
  obtain ⟨ordered, ordered_perm, alike⟩ := matched
  obtain ⟨reordered, later_alike, reordered_perm⟩ := List.perm_comp_forall₂ perm.symm alike
  exact ⟨reordered, reordered_perm.trans ordered_perm, later_alike⟩

theorem Matched.symm
    (sameness : Sameness same)
    (matched : Matched same list other) :
    Matched same other list := by
  obtain ⟨ordered, perm, alike⟩ := matched
  have backwards : Matched same ordered list := ⟨list, .refl list, alike.symm sameness⟩
  exact backwards.perm_left perm

theorem Matched.trans
    (sameness : Sameness same)
    (first : Matched same list other)
    (second : Matched same other later) :
    Matched same list later := by
  obtain ⟨ordered, perm, alike⟩ := first
  obtain ⟨reordered, reordered_perm, nextAlike⟩ := second.perm_left perm.symm
  exact ⟨reordered, reordered_perm, alike.trans sameness nextAlike⟩

theorem Matched.length_eq
    (matched : Matched same list other) :
    list.length = other.length := by
  obtain ⟨ordered, perm, alike⟩ := matched
  exact alike.length_eq.trans perm.length_eq

/-! ## Removing is matching -/

theorem Matched.cons
    (isSame : same a b = true)
    (matched : Matched same list other) :
    Matched same (a :: list) (b :: other) := by
  obtain ⟨ordered, perm, alike⟩ := matched
  exact ⟨b :: ordered, perm.cons b, .cons isSame alike⟩

/-- An element may be removed with any that is the same, since what another matching has
in its place is the same too. -/
theorem Matched.of_cons
    (sameness : Sameness same)
    (isSame : same a b = true)
    (matched : Matched same (a :: list) (b :: other)) :
    Matched same list other := by
  obtain ⟨ordered, perm, alike⟩ := matched
  cases alike with
  | @cons _ partner _ ordered partnerSame alike =>
      rcases List.mem_cons.mp (perm.mem_iff.mpr List.mem_cons_self) with rfl | member
      · exact ⟨ordered, perm.cons_inv, alike⟩
      · obtain ⟨front, back, rfl⟩ := List.append_of_mem member
        have swapped : same b partner = true :=
          sameness.trans (sameness.symm isSame) partnerSame
        have others : (b :: (front ++ partner :: back)).Perm (b :: other) := by
          have exchanged : (b :: (front ++ partner :: back)).Perm
              (partner :: (front ++ b :: back)) :=
            (List.perm_middle.cons b).trans
              ((List.Perm.swap _ _ _).trans (List.perm_middle.symm.cons partner))
          exact exchanged.trans perm
        exact ⟨front ++ partner :: back, others.cons_inv,
          Alike.replace sameness swapped alike⟩

/-- Of two lists of one length, one is used up exactly if they match. -/
theorem removeEach_iff_matched
    (sameness : Sameness same)
    (length_eq : list.length = other.length) :
    removeEach same list other = true ↔ Matched same list other := by
  induction list generalizing other with
  | nil =>
      have nothing : other = [] := List.length_eq_zero_iff.mp length_eq.symm
      subst nothing
      exact ⟨fun _ => ⟨[], .nil, .nil⟩, fun _ => rfl⟩
  | cons a rest inductionHypothesis =>
      rw [removeEach]
      cases found : other.find? (same a) with
      | none =>
          refine iff_of_false Bool.false_ne_true ?_
          rintro ⟨ordered, perm, alike⟩
          cases alike with
          | @cons _ partner _ _ isSame _ =>
              have member : partner ∈ other := perm.mem_iff.mp List.mem_cons_self
              exact List.find?_eq_none.mp found partner member isSame
      | some first =>
          obtain ⟨b, front, back, -, isSame, split, erased⟩ :=
            List.exists_of_eraseP (List.mem_of_find?_eq_some found)
              (List.find?_some found)
          have moved : other.Perm (b :: other.eraseP (same a)) := by
            rw [erased, split]
            exact List.perm_middle
          have shorter : rest.length = (other.eraseP (same a)).length := by
            have total := length_eq.trans moved.length_eq
            simpa using total
          dsimp only
          rw [inductionHypothesis shorter]
          constructor
          · intro matched
            exact (matched.cons isSame).perm_right moved.symm
          · intro matched
            exact (matched.perm_right moved).of_cons sameness isSame

end Matching
end Lib
