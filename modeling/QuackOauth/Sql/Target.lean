import QuackOauth.Sql.Objects

/-!
# Targets of writes

The object that an `INSERT`, `UPDATE`, `DELETE` or `MERGE` changes is a table of the
catalog, whatever aliases are in scope.  An `INSERT` surfaces its target as such; the
others walk it like a table that is read, and lose it where an alias has its name.
-/

namespace QuackOauth
namespace Sql

open Policy

/-- The table that a reference names. -/
def namedTable : TableRef → Option QualifiedName
  | .baseTable target _ _ _ _ => some target
  | _ => none

/-- The table that a data-modifying node changes. -/
def writeTarget : Node → Option QualifiedName
  | .insert (.mk target _ _ _ _ _) => some target
  | .update (.mk table _ _ _) => namedTable table
  | .delete (.mk table _ _ _) => namedTable table
  | .merge (.mk target _ _ _ _) => namedTable target
  | _ => none

/-- The target is walked like a table that is read. -/
def walksTarget : Node → Bool
  | .update _ => true
  | .delete _ => true
  | .merge _ => true
  | _ => false

/-- Every target of a write is an object of the request. -/
def TargetsVisible (statements : List Statement) : Prop :=
  ∀ scope node target, OccursIn statements scope node →
    writeTarget node = some target →
    objectName target ∈ (inspectStatements statements).objects

/-- A write does not surface its target itself: the target is walked as if it were read
and has the name of an alias in scope, or it is the exempt view or has no name. -/
def LosesTarget (scope : Scope) (node : Node) (target : QualifiedName) : Prop :=
  walksTarget node = true ∧ boundToCte scope target = true ∨
    isExemptView target = true ∨ target.name = ""

/-- Every target that its write does not surface is named by another node. -/
def LostTargetsNamedElsewhere (statements : List Statement) : Prop :=
  ∀ scope node target, OccursIn statements scope node →
    writeTarget node = some target →
    LosesTarget scope node target →
    NamedIn statements (objectName target)

section Targets

variable {statements : List Statement} {scope : Scope}

theorem eq_baseTable_of_namedTable
    {ref : TableRef}
    {target : QualifiedName}
    (names : namedTable ref = some target) :
    ∃ tableAlias columnAliases hasAtClause atExpression,
      ref = .baseTable target tableAlias columnAliases hasAtClause atExpression := by
  cases ref with
  | baseTable target tableAlias columnAliases hasAtClause atExpression =>
      cases names
      exact ⟨_, _, _, _, rfl⟩
  | _ => cases names

/-- A table below a write that is not bound surfaces its name. -/
theorem emits_walkedTarget
    (accepted : Accepted statements)
    {node : Node}
    {ref : TableRef}
    {target : QualifiedName}
    (occurs : OccursIn statements scope node)
    (below : .visit (scope, .tableRef ref) ∈ parts scope node)
    (names : namedTable ref = some target)
    (unbound : boundToCte scope target = false) :
    Emits statements (.object target) := by
  obtain ⟨tableAlias, columnAliases, hasAtClause, atExpression, rfl⟩ :=
    eq_baseTable_of_namedTable names
  exact emits_baseTable accepted (occurs.below below) unbound

/-- A write that does not lose its target surfaces it. -/
theorem emits_writeTarget
    (accepted : Accepted statements)
    {node : Node}
    {target : QualifiedName}
    (occurs : OccursIn statements scope node)
    (writes : writeTarget node = some target)
    (unbound : walksTarget node = true → boundToCte scope target = false) :
    Emits statements (.object target) := by
  cases node with
  | insert node =>
      cases node
      cases writes
      exact ⟨scope, _, occurs, List.mem_cons_self⟩
  | update node =>
      cases node
      exact emits_walkedTarget accepted occurs List.mem_cons_self writes (unbound rfl)
  | delete node =>
      cases node
      exact emits_walkedTarget accepted occurs List.mem_cons_self writes (unbound rfl)
  | merge node =>
      cases node
      exact emits_walkedTarget accepted occurs List.mem_cons_self writes (unbound rfl)
  | _ => cases writes

/-- The targets of an accepted request are visible exactly if each target that its own
write loses is named by another node. -/
theorem targetsVisible_iff
    (safe : (inspectStatements statements).isUnsafe = false) :
    TargetsVisible statements ↔ LostTargetsNamedElsewhere statements := by
  have accepted := accepted_of_isUnsafe_eq_false safe
  constructor
  · intro visible scope node target occurs writes loses
    exact (mem_objects_iff_namedIn accepted).mp (visible scope node target occurs writes)
  · intro elsewhere scope node target occurs writes
    by_cases loses : LosesTarget scope node target
    · exact (mem_objects_iff_namedIn accepted).mpr
        (elsewhere scope node target occurs writes loses)
    · simp only [LosesTarget, not_or, not_and, Bool.not_eq_true] at loses
      obtain ⟨unbound, gated, named⟩ := loses
      have emits := emits_writeTarget accepted occurs writes unbound
      exact objectName_mem_objects accepted emits named gated

end Targets

/-- `WITH secret AS (SELECT 1) DELETE FROM secret`. -/
def deletesUnderAlias : Statement :=
  .delete
    [.definition "secret" (.node [] [] (.select .inert [.constant "1"] .null .null .null []))]
    (.mk (plainTable "secret") [] .null [])

theorem targetsVisible_iff_sample :
    TargetsVisible [deletesUnderAlias] ↔ LostTargetsNamedElsewhere [deletesUnderAlias] :=
  targetsVisible_iff (by decide)

/-- The table that the rows are deleted from is no object of the request. -/
theorem delete_target_lost :
    (inspectStatements [deletesUnderAlias]).isUnsafe = false ∧
      ¬TargetsVisible [deletesUnderAlias] := by
  refine ⟨by decide, ?_⟩
  intro visible
  have atStatement : OccursIn [deletesUnderAlias] [] (.statement deletesUnderAlias) :=
    occursIn_of_mem List.mem_cons_self
  have atDelete := atStatement.below (List.mem_cons_of_mem _ List.mem_cons_self)
  have target := visible _ _ _ atDelete rfl
  exact absurd target (by decide)

end Sql
end QuackOauth
