import QuackOauth.Sql.Inspect

/-!
# Object coverage

Every table and table function that a request can reach is among its objects, unless
it is bound to an alias in scope or exempt; and every object is named by an occurrence
that is not bound.
-/

namespace QuackOauth
namespace Sql

open Policy

/-- A node names an object. -/
inductive NamedBy (scope : Scope) : Node → String → Prop
  | baseTable
      {target : QualifiedName}
      {tableAlias : String}
      {columnAliases : List String}
      {hasAtClause : Bool}
      {atExpression : Expr}
      (unbound : boundToCte scope target = false) :
      NamedBy scope
        (.tableRef (.baseTable target tableAlias columnAliases hasAtClause atExpression))
        (objectName target)
  | showTarget
      {query : QueryNode}
      {target : QualifiedName}
      (unbound : boundToCte scope target = false) :
      NamedBy scope (.tableRef (.showRef query target)) (objectName target)
  | tableFunction
      {function : Expr}
      {hasSubquery : Bool}
      {subquery : QueryNode} :
      NamedBy scope (.tableRef (.tableFunction function hasSubquery subquery))
        ("fn:" ++ lowerAscii function.functionName)
  | insertTarget
      {target : QualifiedName}
      {select : QueryNode}
      {tableRef : TableRef}
      {returning : List Expr}
      {conflictSet : SetInfo}
      {conflictCondition : Expr} :
      NamedBy scope
        (.insert (.mk target select tableRef returning conflictSet conflictCondition))
        (objectName target)
  | copyTarget
      {target : QualifiedName}
      {isFrom : Bool}
      {select : QueryNode}
      {filePath : Expr}
      {options : List Expr} :
      NamedBy scope (.copyInfo (.info target isFrom select filePath options))
        (objectName target)
  | definition
      {statement : Statement}
      {target : QualifiedName}
      (defines : definedTarget statement = some target) :
      NamedBy scope (.statement statement) (objectName target)
  | schema
      {target : QualifiedName}
      {options : List Expr} :
      NamedBy scope (.statement (.createSchema target options))
        ("schema:" ++ lowerAscii target.schema)
  | catalog (name : String) :
      NamedBy scope (.statement (.detach name)) ("catalog:" ++ lowerAscii name)

/-- The objects of the request of statements are what the statements reach. -/
structure ObjectCoverage (statements : List Statement) : Prop where
  /-- A table is covered unless it is bound or is the exempt view. -/
  tables :
    ∀ {scope target tableAlias columnAliases hasAtClause atExpression},
      OccursIn statements scope
        (.tableRef (.baseTable target tableAlias columnAliases hasAtClause atExpression)) →
      target.name ≠ "" →
      boundToCte scope target = false →
      isExemptView target = false →
      objectName target ∈ (inspectStatements statements).objects
  /-- A table function is covered unless it is exempt. -/
  functions :
    ∀ {scope function hasSubquery subquery},
      OccursIn statements scope
        (.tableRef (.tableFunction function hasSubquery subquery)) →
      isExemptFunction (lowerAscii function.functionName) = false →
      "fn:" ++ lowerAscii function.functionName ∈ (inspectStatements statements).objects
  /-- Nothing else is an object; in particular no table that is bound to an alias. -/
  named :
    ∀ {object}, object ∈ (inspectStatements statements).objects →
      ∃ scope node, OccursIn statements scope node ∧ NamedBy scope node object

/-! ## Tables -/

section Coverage

variable {statements : List Statement} {scope : Scope}

theorem objectName_eq_of_objectOf
    {target : QualifiedName}
    {object : String}
    (surfaced : objectOf target = some object) :
    objectName target = object := by
  unfold objectOf at surfaced
  split_ifs at surfaced
  exact Option.some.inj surfaced

/-- A name that an accepted request surfaces as an object is an object of it. -/
theorem objectName_mem_objects
    (accepted : Accepted statements)
    {target : QualifiedName}
    (emits : Emits statements (.object target))
    (named : target.name ≠ "")
    (gated : isExemptView target = false) :
    objectName target ∈ (inspectStatements statements).objects := by
  have admitted : refusesName target = false := accepted.admitted _ emits
  apply mem_objects_iff.mpr
  exact ⟨.object target, emits, objectOf_eq named admitted gated⟩

/-- A table that is not bound is not read as a file, and surfaces its name. -/
theorem emits_baseTable
    (accepted : Accepted statements)
    {target : QualifiedName}
    {tableAlias : String}
    {columnAliases : List String}
    {hasAtClause : Bool}
    {atExpression : Expr}
    (occurs : OccursIn statements scope
      (.tableRef (.baseTable target tableAlias columnAliases hasAtClause atExpression)))
    (unbound : boundToCte scope target = false) :
    Emits statements (.object target) := by
  have emitted (event : Event) (member : event ∈ baseTableEvents scope target) :
      Emits statements event :=
    ⟨scope, _, occurs, List.mem_append_right _ (List.mem_map_of_mem member)⟩
  cases path : isReplacementScanName target with
  | true =>
      have refusal := emitted (.refuse "path-like replacement scan")
        (by simp [baseTableEvents, unbound, path])
      exact absurd (accepted.admitted _ refusal) (by simp [Event.refuses])
  | false => exact emitted _ (by simp [baseTableEvents, unbound, path])

theorem functionObjectOf_eq
    {name : String}
    (named : name ≠ "")
    (gated : isExemptFunction (lowerAscii name) = false) :
    functionObjectOf name = some ("fn:" ++ lowerAscii name) := by
  simp [functionObjectOf, functionObject, named, gated]

/-- A table function of an accepted request has a name, and surfaces it. -/
theorem emits_tableFunction
    (accepted : Accepted statements)
    {function : Expr}
    {hasSubquery : Bool}
    {subquery : QueryNode}
    (occurs : OccursIn statements scope
      (.tableRef (.tableFunction function hasSubquery subquery))) :
    function.functionName ≠ "" ∧ Emits statements (.function function.functionName) := by
  have emitted (event : Event) (member : event ∈ functionNameEvents function.functionName) :
      Emits statements event :=
    ⟨scope, _, occurs, List.mem_append_left _ (List.mem_map_of_mem member)⟩
  by_cases unnamed : function.functionName = ""
  · have refusal := emitted .unnamedTableFunction (by simp [functionNameEvents, unnamed])
    exact absurd (accepted.admitted _ refusal) (by simp [Event.refuses])
  · exact ⟨unnamed, emitted _ (by simp [functionNameEvents, unnamed])⟩

/-- A contribution that surfaces an object names it. -/
theorem namedBy_of_contributes
    {node : Node}
    {event : Event}
    {object : String}
    (contributes : Contributes scope node event)
    (surfaced : event.surfacedObject = some object) :
    NamedBy scope node object := by
  cases contributes with
  | refusal message => cases surfaced
  | unnamedTableFunction unnamed => cases surfaced
  | columnRef names => cases surfaced
  | star children => cases surfaced
  | write writes => cases surfaced
  | tableFunction named =>
      simp only [Event.surfacedObject, functionObjectOf, functionObject, if_neg named]
        at surfaced
      split_ifs at surfaced
      exact Option.some.inj surfaced ▸ .tableFunction
  | baseTable unbound notPath =>
      rw [← objectName_eq_of_objectOf surfaced]
      exact .baseTable unbound
  | showTarget unbound =>
      rw [← objectName_eq_of_objectOf surfaced]
      exact .showTarget unbound
  | insertTarget =>
      rw [← objectName_eq_of_objectOf surfaced]
      exact .insertTarget
  | copyTarget =>
      rw [← objectName_eq_of_objectOf surfaced]
      exact .copyTarget
  | definition defines =>
      rw [← objectName_eq_of_objectOf surfaced]
      exact .definition defines
  | schema => exact Option.some.inj surfaced ▸ .schema
  | catalog name => exact Option.some.inj surfaced ▸ .catalog name

/-- The objects of a request that is not refused are exactly what its statements reach. -/
theorem objectCoverage_of_not_isUnsafe
    (safe : (inspectStatements statements).isUnsafe = false) :
    ObjectCoverage statements := by
  have accepted := accepted_of_isUnsafe_eq_false safe
  constructor
  case tables =>
    intro scope target tableAlias columnAliases hasAtClause atExpression occurs named
      unbound gated
    have emits := emits_baseTable accepted occurs unbound
    exact objectName_mem_objects accepted emits named gated
  case functions =>
    intro scope function hasSubquery subquery occurs gated
    obtain ⟨named, emits⟩ := emits_tableFunction accepted occurs
    exact mem_objects_iff.mpr ⟨_, emits, functionObjectOf_eq named gated⟩
  case named =>
    intro object member
    obtain ⟨event, ⟨scope, node, occurs, emitted⟩, surfaced⟩ := mem_objects_iff.mp member
    have contributes := contributes_of_emit_mem_parts emitted
    exact ⟨scope, node, occurs, namedBy_of_contributes contributes surfaced⟩

end Coverage

/-- `SELECT column FROM source`, with nothing else. -/
def plainSelect (column : String) (source : TableRef) : QueryBody :=
  .select source [.columnRef [column]] .null .null .null []

/-- A table under its own name. -/
def plainTable (name : String) : TableRef :=
  .baseTable { name } "" [] false .null

/-- `WITH recent AS (SELECT id FROM orders) SELECT id FROM recent, read_csv()`. -/
def readsThroughAlias : Statement :=
  .select (.node
    [.definition "recent" (.node [] [] (plainSelect "id" (plainTable "orders")))]
    []
    (plainSelect "id"
      (.join (plainTable "Recent") (.tableFunction (.function "read_csv" []) false .null)
        .null [] false)))

theorem objectCoverage_sample : ObjectCoverage [readsThroughAlias] :=
  objectCoverage_of_not_isUnsafe (by decide)

example :
    (inspectStatements [readsThroughAlias]).objects = ["main.orders", "fn:read_csv"] := by
  decide

end Sql
end QuackOauth
