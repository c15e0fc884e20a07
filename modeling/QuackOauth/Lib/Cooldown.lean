import QuackOauth.Lib.UnorderedMap

/-!
# Saying a thing once in a while

A map remembers when each key was last let through.  A key is let through again once a
window of time has passed, or if the clock has been put back.
-/

namespace Lib
namespace Cooldown

variable {Key Item : Type*} [DecidableEq Key]

/-- Whether a key may be let through. -/
def isDue (windowS nowS : Int) (last : UnorderedMap Key Int) (key : Key) : Bool :=
  match last.lookup key with
  | none => true
  | some lastS => !(decide (nowS ≥ lastS) && decide (nowS - lastS < windowS))

/-- Let the items through whose keys are due, one after the other, and remember when. -/
def pass (windowS nowS : Int) (keyOf : Item → Key) :
    List Item → UnorderedMap Key Int → List Item × UnorderedMap Key Int
  | [], last => ([], last)
  | item :: rest, last =>
      if isDue windowS nowS last (keyOf item) then
        let (passed, after) := pass windowS nowS keyOf rest (last.insert (keyOf item) nowS)
        (item :: passed, after)
      else pass windowS nowS keyOf rest last

variable {windowS nowS : Int} {keyOf : Item → Key} {items : List Item}
variable {last : UnorderedMap Key Int} {key : Key}

/-- A key is not due exactly within a window of its last time. -/
theorem isDue_eq_false_iff :
    isDue windowS nowS last key = false ↔
      ∃ lastS, last.lookup key = some lastS ∧ lastS ≤ nowS ∧ nowS < lastS + windowS := by
  unfold isDue
  split
  · next absent => simp [absent]
  · next lastS stored =>
      rw [Bool.not_eq_false', Bool.and_eq_true, decide_eq_true_eq, decide_eq_true_eq]
      constructor
      · rintro ⟨later, within⟩
        exact ⟨lastS, stored, later, by omega⟩
      · rintro ⟨other, same, later, within⟩
        rw [stored] at same
        obtain rfl := Option.some.inj same
        exact ⟨later, by omega⟩

/-- Whether a key is due depends on its own last time. -/
theorem isDue_congr
    {other : UnorderedMap Key Int}
    (same : other.lookup key = last.lookup key) :
    isDue windowS nowS other key = isDue windowS nowS last key := by
  rw [isDue, isDue, same]

/-- A key that was just let through is not due. -/
theorem isDue_insert_self
    (positive : 0 < windowS) :
    isDue windowS nowS (last.insert key nowS) key = false := by
  rw [isDue_eq_false_iff]
  exact ⟨nowS, AList.lookup_insert last, Int.le_refl nowS, Int.lt_add_of_pos_right nowS positive⟩

/-- Exactly the keys that are due are let through. -/
theorem mem_pass_iff :
    key ∈ (pass windowS nowS keyOf items last).1.map keyOf ↔
      key ∈ items.map keyOf ∧ isDue windowS nowS last key = true := by
  induction items generalizing last with
  | nil => simp [pass]
  | cons item rest inductionHypothesis =>
      rw [List.map_cons, List.mem_cons, pass]
      by_cases due : isDue windowS nowS last (keyOf item) = true
      · rw [if_pos due]
        dsimp only
        rw [List.map_cons, List.mem_cons, inductionHypothesis]
        by_cases same : key = keyOf item
        · subst same
          simp [due]
        · have unchanged : isDue windowS nowS (last.insert (keyOf item) nowS) key =
              isDue windowS nowS last key :=
            isDue_congr (AList.lookup_insert_ne same)
          rw [unchanged]
          simp [same]
      · rw [if_neg due, inductionHypothesis]
        by_cases same : key = keyOf item
        · subst same
          simp [due]
        · simp [same]

/-- No key is let through twice. -/
theorem nodup_pass
    (positive : 0 < windowS) :
    ((pass windowS nowS keyOf items last).1.map keyOf).Nodup := by
  induction items generalizing last with
  | nil => exact List.nodup_nil
  | cons item rest inductionHypothesis =>
      rw [pass]
      split
      · dsimp only
        rw [List.map_cons, List.nodup_cons]
        refine ⟨?_, inductionHypothesis⟩
        rw [mem_pass_iff, isDue_insert_self positive]
        rintro ⟨-, due⟩
        cases due
      · exact inductionHypothesis

/-- What is remembered is the time of the keys let through, and what was remembered
before. -/
theorem lookup_pass :
    (pass windowS nowS keyOf items last).2.lookup key =
      if key ∈ (pass windowS nowS keyOf items last).1.map keyOf then some nowS
      else last.lookup key := by
  induction items generalizing last with
  | nil => rfl
  | cons item rest inductionHypothesis =>
      rw [pass]
      split
      · dsimp only
        rw [inductionHypothesis, List.map_cons, UnorderedMap.lookup_insert_eq_ite]
        by_cases same : key = keyOf item
        · subst same
          simp
        · simp [same]
      · exact inductionHypothesis

end Cooldown
end Lib
