import QuackOauth.Sql.Inspect

/-!
# One batch after another

Statements that are inspected together give the request that their requests add up to.
What a statement contributes depends on the verb of the request and on nothing else
that came before it.
-/

namespace QuackOauth
namespace Sql

open Policy Lib Distinct

variable {statements later : List Statement} {statement : Statement} {action : Action}

/-! ## Statements that a verb admits -/

/-- The verb that admits some statements is the one of their request. -/
theorem requestVerb_eq_of_admitted
    (nonempty : statements ≠ [])
    (admitted : ∀ statement ∈ statements, AdmittedUnder action statement) :
    requestVerb statements = action := by
  cases statements with
  | nil => exact absurd rfl nonempty
  | cons statement rest =>
      have first := admitted statement List.mem_cons_self
      rw [requestVerb, leadingVerb, if_neg (Bool.eq_false_iff.mp first.notNull)]
      exact first.verb_eq

/-- A request is not refused if one verb admits all its statements. -/
theorem isUnsafe_eq_false_iff_exists :
    (inspectStatements statements).isUnsafe = false ↔
      ∃ action, ∀ statement ∈ statements, AdmittedUnder action statement := by
  rw [isUnsafe_eq_false_iff]
  constructor
  · intro admitted
    exact ⟨requestVerb statements, admitted⟩
  · rintro ⟨action, admitted⟩ statement member
    rw [requestVerb_eq_of_admitted (List.ne_nil_of_mem member) admitted]
    exact admitted statement member

/-- Two batches can be joined exactly if neither is refused and their verbs agree. -/
theorem isUnsafe_append_eq_false_iff :
    (inspectStatements (statements ++ later)).isUnsafe = false ↔
      (inspectStatements statements).isUnsafe = false ∧
        (inspectStatements later).isUnsafe = false ∧
        (statements ≠ [] → later ≠ [] → requestVerb statements = requestVerb later) := by
  constructor
  · intro safe
    obtain ⟨action, admitted⟩ := isUnsafe_eq_false_iff_exists.mp safe
    have front : ∀ statement ∈ statements, AdmittedUnder action statement :=
      fun statement member => admitted statement (List.mem_append_left later member)
    have back : ∀ statement ∈ later, AdmittedUnder action statement :=
      fun statement member => admitted statement (List.mem_append_right statements member)
    refine ⟨isUnsafe_eq_false_iff_exists.mpr ⟨action, front⟩,
      isUnsafe_eq_false_iff_exists.mpr ⟨action, back⟩, ?_⟩
    intro frontNonempty backNonempty
    rw [requestVerb_eq_of_admitted frontNonempty front,
      requestVerb_eq_of_admitted backNonempty back]
  · rintro ⟨frontSafe, backSafe, agree⟩
    rw [isUnsafe_eq_false_iff] at frontSafe backSafe
    by_cases frontEmpty : statements = []
    · subst frontEmpty
      exact isUnsafe_eq_false_iff.mpr backSafe
    · refine isUnsafe_eq_false_iff_exists.mpr ⟨requestVerb statements, ?_⟩
      intro statement member
      rcases List.mem_append.mp member with inFront | inBack
      · exact frontSafe statement inFront
      · rw [agree frontEmpty (List.ne_nil_of_mem inBack)]
        exact backSafe statement inBack

/-! ## What statements surface -/

/-- The verb of the request decides about refusals only. -/
theorem filterMap_statementEvents
    {surfaced : Event → Option String}
    (refusal : ∀ message, surfaced (.refuse message) = none)
    (action : Action)
    (statement : Statement) :
    (statementEvents action statement).filterMap surfaced =
      (events [] (.statement statement)).filterMap surfaced := by
  unfold statementEvents
  cases isNull : statement.isNull with
  | true =>
      have nothing : (events [] (.statement statement)).filterMap surfaced = [] := by
        rw [List.filterMap_eq_nil_iff]
        intro event member
        obtain ⟨message, rfl⟩ := eq_refuse_of_isNull isNull member
        exact refusal message
      rw [if_pos rfl, nothing, List.filterMap_cons_none (refusal _)]
      rfl
  | false =>
      have unclassified : (classifyEvents statement).filterMap surfaced = [] := by
        rw [List.filterMap_eq_nil_iff]
        intro event member
        obtain ⟨message, rfl⟩ := eq_refuse_of_mem_classifyEvents member
        exact refusal message
      rw [if_neg Bool.false_ne_true, List.filterMap_append, List.filterMap_append,
        unclassified]
      split_ifs with agrees
      · rfl
      · rw [List.filterMap_cons_none (refusal _)]
        rfl

theorem filterMap_requestEvents
    {surfaced : Event → Option String}
    (refusal : ∀ message, surfaced (.refuse message) = none) :
    (requestEvents statements).filterMap surfaced =
      statements.flatMap fun statement =>
        (events [] (.statement statement)).filterMap surfaced := by
  rw [requestEvents, List.filterMap_flatMap]
  exact congrArg (statements.flatMap ·)
    (funext fun statement => filterMap_statementEvents refusal _ statement)

/-- The objects that statements name, one statement after the other. -/
def namedObjects (statements : List Statement) : List String :=
  statements.flatMap fun statement =>
    (events [] (.statement statement)).filterMap Event.surfacedObject

/-- The columns that statements name, one statement after the other. -/
def namedColumns (statements : List Statement) : List String :=
  statements.flatMap fun statement =>
    (events [] (.statement statement)).filterMap Event.surfacedColumn

/-- A request has every object once, where it is named first. -/
theorem inspectStatements_objects :
    (inspectStatements statements).objects = extend [] (namedObjects statements) := by
  rw [inspectStatements_eq, applyEvents_objects, filterMap_requestEvents fun _ => rfl]
  rfl

/-- A request has every column once, where it is named first. -/
theorem inspectStatements_columns :
    (inspectStatements statements).columns = extend [] (namedColumns statements) := by
  rw [inspectStatements_eq, applyEvents_columns, filterMap_requestEvents fun _ => rfl]
  rfl

/-! ## Two batches in one request -/

/-- One request is what two others come to, the first followed by the second.  A
request for no statements has no say about the action. -/
structure Joins (statements later : List Statement) (whole : AuthzRequest) : Prop where
  isUnsafe_iff : whole.isUnsafe = true ↔
    (inspectStatements statements).isUnsafe = true ∨
      (inspectStatements later).isUnsafe = true ∨
      (statements ≠ [] ∧ later ≠ [] ∧
        (inspectStatements statements).action ≠ (inspectStatements later).action)
  action_front : whole.isUnsafe = false → statements ≠ [] →
    whole.action = (inspectStatements statements).action
  action_back : whole.isUnsafe = false → later ≠ [] →
    whole.action = (inspectStatements later).action
  objects_eq : whole.objects =
    ((inspectStatements statements).objects ++ (inspectStatements later).objects).eraseDups
  columns_eq : whole.columns =
    ((inspectStatements statements).columns ++ (inspectStatements later).columns).eraseDups

/-- Inspection of a batch is determined by its parts: nothing in the first part changes
what the second one contributes. -/
theorem inspectStatements_append (statements later : List Statement) :
    Joins statements later (inspectStatements (statements ++ later)) := by
  constructor
  case isUnsafe_iff =>
    have accepted : (inspectStatements (statements ++ later)).isUnsafe = false ↔ _ :=
      isUnsafe_append_eq_false_iff
    rw [← Bool.not_eq_false, accepted, inspectStatements_action, inspectStatements_action,
      ← Bool.not_eq_false, ← Bool.not_eq_false]
    tauto
  case action_front =>
    intro safe nonempty
    obtain ⟨action, admitted⟩ := isUnsafe_eq_false_iff_exists.mp safe
    rw [inspectStatements_action, inspectStatements_action,
      requestVerb_eq_of_admitted (List.append_ne_nil_of_left_ne_nil nonempty later) admitted,
      requestVerb_eq_of_admitted nonempty fun statement member =>
        admitted statement (List.mem_append_left later member)]
  case action_back =>
    intro safe nonempty
    obtain ⟨action, admitted⟩ := isUnsafe_eq_false_iff_exists.mp safe
    rw [inspectStatements_action, inspectStatements_action,
      requestVerb_eq_of_admitted (List.append_ne_nil_of_right_ne_nil statements nonempty)
        admitted,
      requestVerb_eq_of_admitted nonempty fun statement member =>
        admitted statement (List.mem_append_right statements member)]
  case objects_eq =>
    rw [inspectStatements_objects, inspectStatements_objects, inspectStatements_objects,
      ← extend_extend_eq_eraseDups, extend_extend_nil, namedObjects, List.flatMap_append,
      extend_append]
    rfl
  case columns_eq =>
    rw [inspectStatements_columns, inspectStatements_columns, inspectStatements_columns,
      ← extend_extend_eq_eraseDups, extend_extend_nil, namedColumns, List.flatMap_append,
      extend_append]
    rfl

end Sql
end QuackOauth
