import Mathlib.Data.List.Sort

/-!
# Ranked rules

A collection of rules, each with a rank and a verdict, decides a question by the
accepted rule of least rank, or by a fallback where it has none.  This is a statement
about the collection, whatever order it is listed in.  Sorting by rank and taking the
first accepted rule computes it, provided that the ranks are distinct.
-/

namespace Lib
namespace Ranked

variable {α ι β : Type*} [LinearOrder ι]

/-- A rule is accepted, and no accepted rule ranks lower. -/
structure IsFirst
    (rank : α → ι)
    (accepts : α → Prop)
    (rules : List α)
    (rule : α) : Prop where
  mem : rule ∈ rules
  accepted : accepts rule
  least : ∀ other ∈ rules, accepts other → rank rule ≤ rank other

/-- A result is the verdict of the first accepted rule, or else the fallback. -/
inductive Decides
    (rank : α → ι)
    (accepts : α → Prop)
    (verdict : α → β)
    (fallback : β)
    (rules : List α) : β → Prop
  | rule {rule : α} :
      IsFirst rank accepts rules rule →
        Decides rank accepts verdict fallback rules (verdict rule)
  | fallback :
      (∀ rule ∈ rules, ¬ accepts rule) →
        Decides rank accepts verdict fallback rules fallback

/-- No two rules of a collection share a rank. -/
def Distinct (rank : α → ι) (rules : List α) : Prop :=
  (rules.map rank).Nodup

instance (rank : α → ι) (rules : List α) : Decidable (Distinct rank rules) :=
  inferInstanceAs (Decidable (rules.map rank).Nodup)

variable {rank : α → ι} {accepts loosely : α → Prop} {verdict : α → β} {fallback : β}
variable {rules : List α} {rule other : α} {result : β}

namespace IsFirst

/-- With distinct ranks there is at most one first rule. -/
theorem unique
    (distinct : Distinct rank rules)
    (isFirst : IsFirst rank accepts rules rule)
    (otherFirst : IsFirst rank accepts rules other) :
    rule = other :=
  List.inj_on_of_nodup_map distinct isFirst.mem otherFirst.mem
    (le_antisymm (isFirst.least other otherFirst.mem otherFirst.accepted)
      (otherFirst.least rule isFirst.mem isFirst.accepted))

/-- The first rule of a weaker acceptance is the first of a stronger one that it
meets. -/
theorem of_weaker
    (weaker : ∀ rule ∈ rules, accepts rule → loosely rule)
    (isFirst : IsFirst rank loosely rules rule)
    (accepted : accepts rule) :
    IsFirst rank accepts rules rule where
  mem := isFirst.mem
  accepted := accepted
  least := fun other member otherAccepted =>
    isFirst.least other member (weaker other member otherAccepted)

end IsFirst

/-- Where no rule is accepted, the fallback decides. -/
theorem decides_iff_of_forall_not
    (noneAccepted : ∀ rule ∈ rules, ¬ accepts rule) :
    Decides rank accepts verdict fallback rules result ↔ result = fallback := by
  constructor
  · intro decides
    cases decides with
    | rule isFirst => exact absurd isFirst.accepted (noneAccepted _ isFirst.mem)
    | fallback _ => rfl
  · rintro rfl
    exact .fallback noneAccepted

/-- Only the acceptance of the rules at hand matters. -/
theorem decides_congr
    (same : ∀ rule ∈ rules, accepts rule ↔ loosely rule)
    (decides : Decides rank accepts verdict fallback rules result) :
    Decides rank loosely verdict fallback rules result := by
  cases decides with
  | @rule rule isFirst =>
      refine .rule ⟨isFirst.mem, (same rule isFirst.mem).mp isFirst.accepted, ?_⟩
      intro other member accepted
      exact isFirst.least other member ((same other member).mpr accepted)
  | fallback noneAccepted =>
      exact .fallback fun rule member accepted =>
        noneAccepted rule member ((same rule member).mpr accepted)

/-- Rules that are sorted by rank are decided by the first one accepted. -/
theorem decides_find?
    {test : α → Bool}
    (accepts_iff : ∀ rule ∈ rules, test rule = true ↔ accepts rule)
    (sorted : rules.Pairwise fun rule later => rank rule ≤ rank later) :
    Decides rank accepts verdict fallback rules
      ((rules.find? test).elim fallback verdict) := by
  cases found : rules.find? test with
  | none =>
      refine .fallback fun rule member accepted => ?_
      exact List.find?_eq_none.mp found rule member ((accepts_iff rule member).mpr accepted)
  | some rule =>
      obtain ⟨passes, before, after, rules_eq, skipped⟩ :=
        List.find?_eq_some_iff_append.mp found
      have member : rule ∈ rules := List.mem_of_find?_eq_some found
      refine .rule ⟨member, (accepts_iff rule member).mp passes, ?_⟩
      intro other isOther accepted
      have otherPasses := (accepts_iff other isOther).mpr accepted
      rw [rules_eq] at isOther sorted
      rcases List.mem_append.mp isOther with earlier | notEarlier
      · have skips := skipped other earlier
        rw [otherPasses] at skips
        cases skips
      · rcases List.mem_cons.mp notEarlier with same | later
        · rw [same]
        · exact List.rel_of_pairwise_cons (List.pairwise_append.mp sorted).2.1 later

/-- The order in which rules are listed does not matter. -/
theorem decides_perm
    {listed : List α}
    (perm : listed.Perm rules) :
    Decides rank accepts verdict fallback listed result ↔
      Decides rank accepts verdict fallback rules result := by
  have onFirst : ∀ {rules listed : List α}, listed.Perm rules →
      Decides rank accepts verdict fallback listed result →
        Decides rank accepts verdict fallback rules result := by
    intro rules listed perm decides
    cases decides with
    | rule isFirst =>
        exact .rule ⟨perm.mem_iff.mp isFirst.mem, isFirst.accepted, fun other member =>
          isFirst.least other (perm.mem_iff.mpr member)⟩
    | fallback noneAccepted =>
        exact .fallback fun rule member => noneAccepted rule (perm.mem_iff.mpr member)
  exact ⟨onFirst perm, onFirst perm.symm⟩

/-- Sorting by rank and taking the first accepted rule decides the collection. -/
theorem decides_find?_insertionSort
    {test : α → Bool}
    (accepts_iff : ∀ rule ∈ rules, test rule = true ↔ accepts rule) :
    Decides rank accepts verdict fallback rules
      (((rules.insertionSort fun rule later => rank rule ≤ rank later).find? test).elim
        fallback verdict) := by
  have perm := List.perm_insertionSort (fun rule later => rank rule ≤ rank later) rules
  have : Std.Total fun rule later : α => rank rule ≤ rank later :=
    ⟨fun rule later => le_total (rank rule) (rank later)⟩
  have : IsTrans α fun rule later : α => rank rule ≤ rank later :=
    ⟨fun _ _ _ => le_trans⟩
  rw [← decides_perm perm]
  exact decides_find? (fun rule member => accepts_iff rule (perm.mem_iff.mp member))
    (List.pairwise_insertionSort _ rules)

/-- What a weaker acceptance decides is what the stronger one does, exactly if its
first rule, where it is not one that the stronger accepts, has the same verdict. -/
theorem decides_iff_of_weaker
    (distinct : Distinct rank rules)
    (weaker : ∀ rule ∈ rules, accepts rule → loosely rule)
    (decides : Decides rank loosely verdict fallback rules result) :
    Decides rank accepts verdict fallback rules result ↔
      ∀ rule, IsFirst rank loosely rules rule → ¬ accepts rule →
        Decides rank accepts verdict fallback rules (verdict rule) := by
  cases decides with
  | @rule rule isFirst =>
      constructor
      · intro meets other otherFirst _
        rw [← isFirst.unique distinct otherFirst]
        exact meets
      · intro harmless
        by_cases accepted : accepts rule
        · exact .rule (isFirst.of_weaker weaker accepted)
        · exact harmless rule isFirst accepted
  | fallback noneAccepted =>
      constructor
      · intro _ rule isFirst
        exact absurd isFirst.accepted (noneAccepted rule isFirst.mem)
      · intro _
        exact .fallback fun rule member accepted =>
          noneAccepted rule member (weaker rule member accepted)

/-! ## Translated rules -/

section Translation

variable {γ : Type*} {translate : γ → Option α} {source : List γ}

/-- Rules are those of a list of items, in order. -/
def Translates (translate : γ → Option α) (source : List γ) (rules : List α) : Prop :=
  List.Forall₂ (fun item rule => translate item = some rule) source rules

theorem translates_of_mapM
    (mapped : source.mapM translate = some rules) :
    Translates translate source rules := by
  induction source generalizing rules with
  | nil =>
      cases mapped
      exact .nil
  | cons item source inductionHypothesis =>
      rw [List.mapM_cons] at mapped
      obtain ⟨first, first_eq, rest⟩ := Option.bind_eq_some_iff.mp mapped
      obtain ⟨others, others_eq, both⟩ := Option.bind_eq_some_iff.mp rest
      cases both
      exact .cons first_eq (inductionHypothesis others_eq)

namespace Translates

theorem mem_iff
    (translates : Translates translate source rules) :
    rule ∈ rules ↔ ∃ item ∈ source, translate item = some rule := by
  induction translates with
  | nil => simp
  | cons first_eq _ inductionHypothesis =>
      rw [List.mem_cons, inductionHypothesis, List.exists_mem_cons_iff, first_eq,
        Option.some_inj, eq_comm]

theorem exists_of_mem
    (translates : Translates translate source rules)
    {item : γ}
    (member : item ∈ source) :
    ∃ rule, translate item = some rule := by
  induction translates with
  | nil => cases member
  | cons first_eq _ inductionHypothesis =>
      rcases List.mem_cons.mp member with rfl | later
      · exact ⟨_, first_eq⟩
      · exact inductionHypothesis later

/-- The first rule to pass decides as the item does that it comes from. -/
theorem elim_find?
    {test : α → Bool}
    {sourceVerdict : γ → β}
    (translates : Translates translate source rules)
    (verdicts : ∀ item rule, translate item = some rule →
      verdict rule = sourceVerdict item) :
    (rules.find? test).elim fallback verdict =
      (source.find? fun item => (translate item).any test).elim fallback
        sourceVerdict := by
  induction translates with
  | nil => rfl
  | @cons item rule _ _ first_eq _ inductionHypothesis =>
      rw [List.find?_cons, List.find?_cons, first_eq, Option.any_some]
      cases test rule with
      | true => exact verdicts item rule first_eq
      | false => exact inductionHypothesis

end Translates
end Translation

end Ranked
end Lib
