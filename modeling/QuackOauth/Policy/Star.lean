import QuackOauth.Policy.Evaluate

/-!
# The star sentinel and column carve-outs

A request for every column carries the sentinel `*` as a column name.  A rule that
matches the sentinel matches every column, for only patterns of stars do.  A deny
rule on some columns, though, does not match the sentinel and is passed over.  The
star is no weaker than its columns exactly if each such rule is made void by the
allow rules before it.
-/

namespace QuackOauth
namespace Policy

open Lib

/-- The column name that stands for all columns. -/
def starSentinel : String := "*"

/-- A request with a column in place of the sentinel. -/
def nameColumn (c : String) (columns : List String) : List String :=
  columns.map fun column => if column = starSentinel then c else column

/-- Among the rules for an object, every deny rule before the first that matches the
sentinel is void: whatever column it matches, an earlier rule allows the column. -/
def CarveOutsVoid
    (doc : PolicyDocument)
    (principal : Principal)
    (action : Action)
    (object : String) : Prop :=
  ∀ before rule after, doc.rules = before ++ rule :: after →
    (∀ earlier ∈ before,
      ruleMatches earlier principal action object starSentinel = false) →
    rule.allow = false →
    ∀ c, c ≠ "" → ruleMatches rule principal action object c = true →
      ∃ earlier ∈ before, earlier.allow = true ∧
        ruleMatches earlier principal action object c = true

/-- A pattern that matches the sentinel matches every value. -/
theorem globMatch_of_globMatch_star
    {pattern : String}
    (matchesStar : globMatch pattern starSentinel = true)
    (value : String) :
    globMatch pattern value = true := by
  have onStar := (Glob.globMatch_iff _ _).mp matchesStar
  have sentinelBytes : bytesOf starSentinel = [starByte] := by decide
  rw [sentinelBytes] at onStar
  obtain ⟨nonempty, stars⟩ :=
    Glob.all_star_of_matches_singleton star_eq_of_alikeByte_star onStar
  exact (Glob.globMatch_iff _ _).mpr (Glob.matches_of_all_star nonempty stars)

/-- A rule that matches the sentinel matches every column. -/
theorem ruleMatches_of_ruleMatches_star
    {rule : PolicyRule}
    {principal : Principal}
    {action : Action}
    {object c : String}
    (nonempty : c ≠ "")
    (matchesStar : ruleMatches rule principal action object starSentinel = true) :
    ruleMatches rule principal action object c = true := by
  obtain ⟨applies, admits⟩ := Bool.and_eq_true_iff.mp matchesStar
  refine Bool.and_eq_true_iff.mpr ⟨applies, ?_⟩
  unfold patternAdmits at admits ⊢
  cases column : rule.columnPattern with
  | none => rfl
  | some pattern =>
      rw [column] at admits
      have globs := (Bool.and_eq_true_iff.mp admits).2
      simp only [nonempty, ne_eq, not_false_eq_true, decide_true, Bool.true_and]
      exact globMatch_of_globMatch_star globs c

variable {doc : PolicyDocument} {principal : Principal} {action : Action}
variable {object : String}

/-- With the carve-outs void, an allowed star allows each column. -/
theorem evaluateCell_allow_of_star
    (void : CarveOutsVoid doc principal action object)
    (starAllowed :
      (evaluateCell doc principal action object starSentinel).decision = .allow)
    {c : String}
    (nonempty : c ≠ "") :
    (evaluateCell doc principal action object c).decision = .allow := by
  rw [evaluateCell_allow_iff] at starAllowed ⊢
  refine ⟨fun rule found => ?_, fun noMatch => starAllowed.2 fun rule member => ?_⟩
  · rw [List.find?_eq_some_iff_append] at found
    obtain ⟨matching, before, after, rules_eq, skipped⟩ := found
    by_contra denies
    by_cases noStar : ∀ earlier ∈ before,
        ruleMatches earlier principal action object starSentinel = false
    · obtain ⟨earlier, member, -, earlierMatches⟩ := void before rule after rules_eq
        noStar (Bool.eq_false_iff.mpr denies) c nonempty matching
      have passedOver := skipped earlier member
      simp [earlierMatches] at passedOver
    · push Not at noStar
      obtain ⟨earlier, member, matchesStar⟩ := noStar
      rw [ne_eq, Bool.not_eq_false] at matchesStar
      have passedOver := skipped earlier member
      simp [ruleMatches_of_ruleMatches_star nonempty matchesStar] at passedOver
  · have noColumn := noMatch rule member
    rw [Bool.eq_false_iff] at noColumn ⊢
    exact fun matchesStar => noColumn (ruleMatches_of_ruleMatches_star nonempty matchesStar)

/-- If every column is allowed, the carve-outs are void. -/
theorem carveOutsVoid_of_allow
    (allowed : ∀ c, c ≠ "" →
      (evaluateCell doc principal action object c).decision = .allow) :
    CarveOutsVoid doc principal action object := by
  intro before rule after rules_eq _ denies c nonempty matching
  have cellAllowed := (evaluateCell_allow_iff.mp (allowed c nonempty)).1
  rw [rules_eq, List.find?_append] at cellAllowed
  cases found : before.find? fun rule => ruleMatches rule principal action object c with
  | some earlier =>
      rw [found] at cellAllowed
      have earlierMatches : ruleMatches earlier principal action object c = true := by
        simpa using List.find?_some found
      exact ⟨earlier, List.mem_of_find?_eq_some found, cellAllowed earlier rfl,
        earlierMatches⟩
  | none =>
      rw [found, Option.none_or] at cellAllowed
      simp only [List.find?_cons, matching] at cellAllowed
      have allows := cellAllowed rule rfl
      rw [denies] at allows
      cases allows

/-- Allowed the star, a principal is allowed each column by name exactly if the
carve-outs of every object are void. -/
theorem star_implies_columns_iff
    (doc : PolicyDocument)
    (principal : Principal)
    (action : Action)
    (objects columns : List String)
    (objectsNonempty : objects ≠ [])
    (hasStar : starSentinel ∈ columns)
    (starAllowed : (evaluatePolicy doc principal
      { action := action, objects := objects, columns := columns }).decision = .allow) :
    (∀ c, c ≠ "" → (evaluatePolicy doc principal
        { action := action, objects := objects,
          columns := nameColumn c columns }).decision = .allow) ↔
      ∀ object ∈ objects, CarveOutsVoid doc principal action object := by
  have columnsNonempty : columns ≠ [] := List.ne_nil_of_mem hasStar
  rw [evaluatePolicy_allow_iff objectsNonempty] at starAllowed
  have cellAllowed : ∀ object ∈ objects, ∀ column ∈ columns,
      (evaluateCell doc principal action object column).decision = .allow :=
    fun object objectMember column columnMember => starAllowed (object, column)
      ((mem_touchedCells columnsNonempty).mpr ⟨objectMember, columnMember⟩)
  have namedNonempty : ∀ c, nameColumn c columns ≠ [] := by
    intro c
    simpa [nameColumn] using columnsNonempty
  constructor
  · intro allowed object member
    refine carveOutsVoid_of_allow fun c nonempty => ?_
    have cells := (evaluatePolicy_allow_iff objectsNonempty).mp (allowed c nonempty)
    refine cells (object, c) ((mem_touchedCells (namedNonempty c)).mpr ⟨member, ?_⟩)
    exact List.mem_map.mpr ⟨starSentinel, hasStar, if_pos rfl⟩
  · intro void c nonempty
    rw [evaluatePolicy_allow_iff objectsNonempty]
    rintro ⟨object, named⟩ touched
    obtain ⟨member, namedMember⟩ := (mem_touchedCells (namedNonempty c)).mp touched
    obtain ⟨column, columnMember, rfl⟩ := List.mem_map.mp namedMember
    dsimp only
    split
    · exact evaluateCell_allow_of_star (void object member)
        (cellAllowed object member starSentinel hasStar) nonempty
    · exact cellAllowed object member column columnMember

/-- Analysts may read the users table, apart from one column. -/
def carveOutPolicy : PolicyDocument where
  rules := [
    { anyScope := ["analyst"], actions := [.scan], objectPattern := some "main.users",
      columnPattern := some "ssn", allow := false },
    { anyScope := ["analyst"], actions := [.scan],
      objectPattern := some "main.users" }]

/-- A principal with the analyst scope. -/
def analyst : Principal where
  subject := "ada"
  scopes := ["analyst"]

/-- The star reads the column that the policy carves out. -/
theorem star_reads_carved_out_column :
    (evaluatePolicy carveOutPolicy analyst
        { objects := ["main.users"], columns := [starSentinel] }).decision = .allow ∧
      ¬ ∀ c, c ≠ "" → (evaluatePolicy carveOutPolicy analyst
        { objects := ["main.users"],
          columns := nameColumn c [starSentinel] }).decision = .allow :=
  ⟨by decide, fun columns => absurd (columns "ssn" (by decide)) (by decide)⟩

/-- Once the column is granted before, the carve-out is void, and the star reads
nothing that naming the columns would not. -/
theorem star_implies_columns_sample :
    (∀ c, c ≠ "" → (evaluatePolicy { carveOutPolicy with
          rules := { columnPattern := some "s*" } :: carveOutPolicy.rules } analyst
        { action := .scan, objects := ["main.users"],
          columns := nameColumn c [starSentinel] }).decision = .allow) ↔
      ∀ object ∈ ["main.users"], CarveOutsVoid { carveOutPolicy with
          rules := { columnPattern := some "s*" } :: carveOutPolicy.rules } analyst
        .scan object :=
  star_implies_columns_iff _ analyst .scan ["main.users"]
    [starSentinel] (by decide) (by decide)
    (by decide)

end Policy
end QuackOauth
