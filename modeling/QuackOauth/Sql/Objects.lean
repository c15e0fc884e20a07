import QuackOauth.Sql.Coverage

/-!
# The objects of an accepted request

Read off from the syntax: an object of an accepted request is one that a node names, by a
table that is not an alias in scope, a table function, or a target.
-/

namespace QuackOauth
namespace Sql

open Policy

/-- The listings that `SHOW` gives instead of describing a table. -/
def isListing (name : String) : Bool :=
  name ∈ ["\"databases\"", "\"schemas\"", "\"tables\"", "__show_tables_expanded"]

/-- A name stands for an object: it is not empty, and not the exempt view. -/
def StandsForObject (target : QualifiedName) : Prop :=
  target.name ≠ "" ∧ isExemptView target = false

/-- A node makes an object one of an accepted request. -/
inductive Names (scope : Scope) : Node → String → Prop
  | baseTable
      {target : QualifiedName}
      {tableAlias : String}
      {columnAliases : List String}
      {hasAtClause : Bool}
      {atExpression : Expr}
      (unbound : boundToCte scope target = false)
      (stands : StandsForObject target) :
      Names scope
        (.tableRef (.baseTable target tableAlias columnAliases hasAtClause atExpression))
        (objectName target)
  | showTarget
      {query : QueryNode}
      {target : QualifiedName}
      (noQuery : query.isNull = true)
      (unlisted : isListing target.name = false)
      (unbound : boundToCte scope target = false)
      (stands : StandsForObject target) :
      Names scope (.tableRef (.showRef query target)) (objectName target)
  | tableFunction
      {function : Expr}
      {hasSubquery : Bool}
      {subquery : QueryNode}
      (gated : isExemptFunction (lowerAscii function.functionName) = false) :
      Names scope (.tableRef (.tableFunction function hasSubquery subquery))
        ("fn:" ++ lowerAscii function.functionName)
  | insertTarget
      {target : QualifiedName}
      {select : QueryNode}
      {tableRef : TableRef}
      {returning : List Expr}
      {conflictSet : SetInfo}
      {conflictCondition : Expr}
      (stands : StandsForObject target) :
      Names scope
        (.insert (.mk target select tableRef returning conflictSet conflictCondition))
        (objectName target)
  | copyTarget
      {target : QualifiedName}
      {isFrom : Bool}
      {select : QueryNode}
      {filePath : Expr}
      {options : List Expr}
      (stands : StandsForObject target) :
      Names scope (.copyInfo (.info target isFrom select filePath options))
        (objectName target)
  | definition
      {statement : Statement}
      {target : QualifiedName}
      (defines : definedTarget statement = some target)
      (stands : StandsForObject target) :
      Names scope (.statement statement) (objectName target)
  | schema
      {target : QualifiedName}
      {options : List Expr} :
      Names scope (.statement (.createSchema target options))
        ("schema:" ++ lowerAscii target.schema)
  | catalog (name : String) :
      Names scope (.statement (.detach name)) ("catalog:" ++ lowerAscii name)

/-- A node of statements names an object. -/
def NamedIn (statements : List Statement) (object : String) : Prop :=
  ∃ scope node, OccursIn statements scope node ∧ Names scope node object

section Objects

variable {statements : List Statement} {scope : Scope} {node : Node} {event : Event}
variable {object : String} {target : QualifiedName}

/-- What a name surfaces, it stands for. -/
theorem standsForObject_of_objectOf
    (surfaced : objectOf target = some object) :
    StandsForObject target ∧ objectName target = object := by
  refine ⟨?_, objectName_eq_of_objectOf surfaced⟩
  unfold objectOf at surfaced
  split_ifs at surfaced with unnamed system view
  refine ⟨unnamed, ?_⟩
  rw [isSystemSchema, Bool.or_eq_true, not_or] at system
  simp only [isExemptView, isAllowedSystemView, Bool.and_eq_false_iff]
  exact .inl (Bool.eq_false_iff.mpr system.1)

/-- A target of `SHOW` surfaces its name unless it stands for a listing or an alias. -/
theorem show_of_emit
    {query : QueryNode}
    (emitted : .emit (.object target) ∈ parts scope (.tableRef (.showRef query target))) :
    query.isNull = true ∧ isListing target.name = false ∧
      boundToCte scope target = false := by
  rw [parts] at emitted
  split_ifs at emitted with noQuery
  · have shown : Event.object target ∈ showTargetEvents scope target := by
      simpa using emitted
    unfold showTargetEvents at shown
    dsimp only at shown
    split_ifs at shown with _ listing _ _ bound
    all_goals first
      | exact ⟨noQuery, by simpa [isListing] using listing, Bool.eq_false_iff.mpr bound⟩
      | simp at shown
  · simp at emitted

/-- A contribution that surfaces an object names it. -/
theorem names_of_emit
    (emitted : .emit event ∈ parts scope node)
    (surfaced : event.surfacedObject = some object) :
    Names scope node object := by
  cases contributes_of_emit_mem_parts emitted with
  | refusal message => cases surfaced
  | unnamedTableFunction unnamed => cases surfaced
  | columnRef names => cases surfaced
  | star children => cases surfaced
  | write writes => cases surfaced
  | tableFunction named =>
      simp only [Event.surfacedObject, functionObjectOf, functionObject, if_neg named]
        at surfaced
      split_ifs at surfaced with exempt
      exact Option.some.inj surfaced ▸ .tableFunction (Bool.eq_false_iff.mpr exempt)
  | baseTable unbound notPath =>
      obtain ⟨stands, rfl⟩ := standsForObject_of_objectOf surfaced
      exact .baseTable unbound stands
  | showTarget unbound =>
      obtain ⟨stands, rfl⟩ := standsForObject_of_objectOf surfaced
      obtain ⟨noQuery, unlisted, -⟩ := show_of_emit emitted
      exact .showTarget noQuery unlisted unbound stands
  | insertTarget =>
      obtain ⟨stands, rfl⟩ := standsForObject_of_objectOf surfaced
      exact .insertTarget stands
  | copyTarget =>
      obtain ⟨stands, rfl⟩ := standsForObject_of_objectOf surfaced
      exact .copyTarget stands
  | definition defines =>
      obtain ⟨stands, rfl⟩ := standsForObject_of_objectOf surfaced
      exact .definition defines stands
  | schema => exact Option.some.inj surfaced ▸ .schema
  | catalog name => exact Option.some.inj surfaced ▸ .catalog name

/-- A statement of an accepted request surfaces what it defines, if that has a name. -/
theorem emits_definedTarget
    {statement : Statement}
    (occurs : OccursIn statements scope (.statement statement))
    (defines : definedTarget statement = some target)
    (named : target.name ≠ "") :
    Emits statements (.object target) := by
  refine ⟨scope, _, occurs, ?_⟩
  cases statement <;> cases defines <;> simp [namedTargetEvents, named]

/-- The target of a `SHOW` in an accepted request surfaces its name. -/
theorem emits_showTarget
    {query : QueryNode}
    (accepted : Accepted statements)
    (occurs : OccursIn statements scope (.tableRef (.showRef query target)))
    (noQuery : query.isNull = true)
    (unlisted : isListing target.name = false)
    (unbound : boundToCte scope target = false) :
    Emits statements (.object target) := by
  have partsOf : parts scope (.tableRef (.showRef query target)) =
      (showTargetEvents scope target).map .emit := by
    rw [parts, if_pos noQuery]
  have noRefusal (message : String) : .refuse message ∉ showTargetEvents scope target := by
    intro refused
    refine accepted.no_refusal occurs message ?_
    rw [partsOf]
    exact List.mem_map_of_mem refused
  have notListed : ¬(target.name = "\"databases\"" ∨ target.name = "\"schemas\"" ∨
      target.name = "\"tables\"" ∨ target.name = "__show_tables_expanded") := by
    simpa [isListing] using unlisted
  refine ⟨scope, _, occurs, ?_⟩
  rw [partsOf]
  refine List.mem_map_of_mem ?_
  unfold showTargetEvents at noRefusal ⊢
  simp only [if_neg notListed, unbound, Bool.false_eq_true, if_false] at noRefusal ⊢
  split_ifs at noRefusal ⊢
  · exact absurd List.mem_cons_self (noRefusal _)
  · exact absurd List.mem_cons_self (noRefusal _)
  · exact absurd List.mem_cons_self (noRefusal _)
  · exact List.mem_cons_self

/-- What a node of an accepted request names is an object of it. -/
theorem mem_objects_of_names
    (accepted : Accepted statements)
    (occurs : OccursIn statements scope node)
    (names : Names scope node object) :
    object ∈ (inspectStatements statements).objects := by
  cases names with
  | baseTable unbound stands =>
      exact objectName_mem_objects accepted (emits_baseTable accepted occurs unbound) stands.1
        stands.2
  | showTarget noQuery unlisted unbound stands =>
      exact objectName_mem_objects accepted
        (emits_showTarget accepted occurs noQuery unlisted unbound) stands.1 stands.2
  | tableFunction gated =>
      obtain ⟨named, emits⟩ := emits_tableFunction accepted occurs
      exact mem_objects_iff.mpr ⟨_, emits, functionObjectOf_eq named gated⟩
  | insertTarget stands =>
      exact objectName_mem_objects accepted ⟨_, _, occurs, List.mem_cons_self⟩ stands.1
        stands.2
  | copyTarget stands =>
      exact objectName_mem_objects accepted ⟨_, _, occurs, List.mem_cons_self⟩ stands.1
        stands.2
  | definition defines stands =>
      exact objectName_mem_objects accepted (emits_definedTarget occurs defines stands.1)
        stands.1 stands.2
  | @schema target options =>
      have named : target.schema ≠ "" := fun unnamed =>
        accepted.no_refusal occurs "unnamed CREATE SCHEMA" (by simp [unnamed])
      refine mem_objects_iff.mpr ⟨.namedObject _, ⟨scope, _, occurs, ?_⟩, rfl⟩
      simp [named]
  | catalog name =>
      have named : lowerAscii name ≠ "" := fun unnamed =>
        accepted.no_refusal occurs "unnamed DETACH target" (by simp [unnamed])
      refine mem_objects_iff.mpr ⟨.namedObject _, ⟨scope, _, occurs, ?_⟩, rfl⟩
      simp [named]

/-- The objects of an accepted request are those that its nodes name. -/
theorem mem_objects_iff_namedIn
    (accepted : Accepted statements) :
    object ∈ (inspectStatements statements).objects ↔ NamedIn statements object := by
  constructor
  · intro member
    obtain ⟨event, ⟨scope, node, occurs, emitted⟩, surfaced⟩ := mem_objects_iff.mp member
    exact ⟨scope, node, occurs, names_of_emit emitted surfaced⟩
  · rintro ⟨scope, node, occurs, names⟩
    exact mem_objects_of_names accepted occurs names

end Objects

end Sql
end QuackOauth
