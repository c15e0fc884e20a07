import QuackOauth.Sql.Tree

/-!
# What each node contributes

One inversion says which node can contribute which event, and under what condition.
What follows about objects, columns and writes is read off from it.
-/

namespace QuackOauth
namespace Sql

/-- The data-modifying node that is the body of a query. -/
def writeKindOf : QueryBody → Option WriteKind
  | .update _ => some .update
  | .delete _ => some .delete
  | .insert _ => some .insert
  | .merge node => some (.merge (mergeOnlyUpdates node))
  | .copy _ => some .copy
  | _ => none

/-- The object that a statement creates, drops or alters. -/
def definedTarget : Statement → Option QualifiedName
  | .createTable target _ _ _ _ _ _ _ => some target
  | .createView target _ => some target
  | .createType target _ => some target
  | .createMacro target => some target
  | .drop _ target => some target
  | .alter target _ => some target
  | _ => none

/-- A node contributes an event itself. -/
inductive Contributes (scope : Scope) : Node → Event → Prop
  | refusal
      (node : Node)
      (message : String) : Contributes scope node (.refuse message)
  | unnamedTableFunction
      {function : Expr}
      {hasSubquery : Bool}
      {subquery : QueryNode}
      (unnamed : function.functionName = "") :
      Contributes scope (.tableRef (.tableFunction function hasSubquery subquery))
        .unnamedTableFunction
  | tableFunction
      {function : Expr}
      {hasSubquery : Bool}
      {subquery : QueryNode}
      (named : function.functionName ≠ "") :
      Contributes scope (.tableRef (.tableFunction function hasSubquery subquery))
        (.function function.functionName)
  | columnRef (names : List String) :
      Contributes scope (.expr (.columnRef names)) (.column names)
  | star (children : List Expr) : Contributes scope (.expr (.star children)) .star
  | write
      {body : QueryBody}
      {kind : WriteKind}
      (writes : writeKindOf body = some kind) :
      Contributes scope (.queryBody body) (.write kind)
  | baseTable
      {target : QualifiedName}
      {tableAlias : String}
      {columnAliases : List String}
      {hasAtClause : Bool}
      {atExpression : Expr}
      (unbound : boundToCte scope target = false)
      (notPath : isReplacementScanName target = false) :
      Contributes scope
        (.tableRef (.baseTable target tableAlias columnAliases hasAtClause atExpression))
        (.object target)
  | showTarget
      {query : QueryNode}
      {target : QualifiedName}
      (unbound : boundToCte scope target = false) :
      Contributes scope (.tableRef (.showRef query target)) (.object target)
  | insertTarget
      {target : QualifiedName}
      {select : QueryNode}
      {tableRef : TableRef}
      {returning : List Expr}
      {conflictSet : SetInfo}
      {conflictCondition : Expr} :
      Contributes scope
        (.insert (.mk target select tableRef returning conflictSet conflictCondition))
        (.object target)
  | copyTarget
      {target : QualifiedName}
      {isFrom : Bool}
      {select : QueryNode}
      {filePath : Expr}
      {options : List Expr} :
      Contributes scope (.copyInfo (.info target isFrom select filePath options))
        (.object target)
  | definition
      {statement : Statement}
      {target : QualifiedName}
      (defines : definedTarget statement = some target) :
      Contributes scope (.statement statement) (.object target)
  | schema
      {target : QualifiedName}
      {options : List Expr} :
      Contributes scope (.statement (.createSchema target options))
        (.namedObject ("schema:" ++ lowerAscii target.schema))
  | catalog (name : String) :
      Contributes scope (.statement (.detach name))
        (.namedObject ("catalog:" ++ lowerAscii name))

/-! ## Events among parts -/

section Parts

variable {scope : Scope} {event : Event}

@[simp] theorem emit_notMem_exprParts {expressions : List Expr} :
    .emit event ∉ exprParts scope expressions := by
  simp [exprParts]

@[simp] theorem emit_notMem_cteParts {cteMap : List Cte} :
    .emit event ∉ cteParts scope cteMap := by
  induction cteMap generalizing scope with
  | nil => simp [cteParts]
  | cons cte rest inductionHypothesis => simp [cteParts, inductionHypothesis]

@[simp] theorem emit_mem_requiredParts {message : String} {expressions : List Expr} :
    .emit event ∈ requiredParts message scope expressions ↔
      event = .refuse message ∧ ∃ expr ∈ expressions, expr.isNull = true := by
  unfold requiredParts
  rw [List.mem_map]
  constructor
  · rintro ⟨expr, member, same⟩
    split_ifs at same with isNull
    cases same
    exact ⟨rfl, expr, member, isNull⟩
  · rintro ⟨rfl, expr, member, isNull⟩
    exact ⟨expr, member, if_pos isNull⟩

@[simp] theorem emit_mem_requiredQuery {message : String} {query : QueryNode} :
    .emit event ∈ requiredQuery message scope query ↔
      event = .refuse message ∧ query.isNull = true := by
  unfold requiredQuery
  split_ifs with isNull <;> simp [isNull]

@[simp] theorem emit_mem_unlessPart {condition : Bool} {message : String} :
    .emit event ∈ unlessPart condition message ↔
      event = .refuse message ∧ condition = false := by
  unfold unlessPart
  split_ifs with holds <;> simp [holds]

theorem contributes_of_mem_baseTableEvents
    {target : QualifiedName}
    {tableAlias : String}
    {columnAliases : List String}
    {hasAtClause : Bool}
    {atExpression : Expr}
    (member : event ∈ baseTableEvents scope target) :
    Contributes scope
      (.tableRef (.baseTable target tableAlias columnAliases hasAtClause atExpression))
      event := by
  unfold baseTableEvents at member
  split_ifs at member with bound path
  · cases member
  · rw [List.mem_singleton.mp member]
    exact .refusal _ _
  · rw [List.mem_singleton.mp member]
    exact .baseTable (Bool.eq_false_iff.mpr bound) (Bool.eq_false_iff.mpr path)

theorem contributes_of_mem_showTargetEvents
    {target : QualifiedName}
    {query : QueryNode}
    (member : event ∈ showTargetEvents scope target) :
    Contributes scope (.tableRef (.showRef query target)) event := by
  unfold showTargetEvents at member
  dsimp only at member
  split_ifs at member with showsVariables listing empty path bound
  · rw [List.mem_singleton.mp member]
    exact .refusal _ _
  · cases member
  · rw [List.mem_singleton.mp member]
    exact .refusal _ _
  · rw [List.mem_singleton.mp member]
    exact .refusal _ _
  · cases member
  · rw [List.mem_singleton.mp member]
    exact .showTarget (Bool.eq_false_iff.mpr bound)

theorem contributes_of_mem_functionNameEvents
    {function : Expr}
    {hasSubquery : Bool}
    {subquery : QueryNode}
    (member : event ∈ functionNameEvents function.functionName) :
    Contributes scope (.tableRef (.tableFunction function hasSubquery subquery)) event := by
  unfold functionNameEvents at member
  split_ifs at member with unnamed dynamic
  · rw [List.mem_singleton.mp member]
    exact .unnamedTableFunction unnamed
  · rcases List.mem_cons.mp member with rfl | refused
    · exact .tableFunction unnamed
    · rw [List.mem_singleton.mp refused]
      exact .refusal _ _
  · rw [List.mem_singleton.mp member]
    exact .tableFunction unnamed

theorem contributes_of_mem_namedTargetEvents
    {message : String}
    {statement : Statement}
    {target : QualifiedName}
    (defines : definedTarget statement = some target)
    (member : event ∈ namedTargetEvents message target) :
    Contributes scope (.statement statement) event := by
  unfold namedTargetEvents at member
  split_ifs at member with unnamed
  · rw [List.mem_singleton.mp member]
    exact .refusal _ _
  · rw [List.mem_singleton.mp member]
    exact .definition defines

/-- Classification only gives reasons to refuse. -/
theorem eq_refuse_of_mem_classifyEvents
    {statement : Statement}
    (member : event ∈ classifyEvents statement) :
    ∃ message, event = .refuse message := by
  cases statement with
  | merge cteMap node =>
      simp only [classifyEvents] at member
      split_ifs at member
      · cases member
      · exact ⟨_, List.mem_singleton.mp member⟩
  | pragma name parameters namedParameters =>
      simp only [classifyEvents] at member
      split_ifs at member <;> simp at member <;> grind
  | set name isGlobal value =>
      simp only [classifyEvents, classifyEvents.settingEvents] at member
      split_ifs at member <;> simp at member <;> grind
  | reset name isGlobal =>
      simp only [classifyEvents, classifyEvents.settingEvents] at member
      split_ifs at member <;> simp at member <;> grind
  | _ => simp [classifyEvents] at member <;> exact ⟨_, member⟩

end Parts

/-! ## The inversion -/

section Inversion

variable {scope : Scope} {event : Event}

theorem contributes_expr
    {expr : Expr}
    (emitted : .emit event ∈ parts scope (.expr expr)) :
    Contributes scope (.expr expr) event := by
  cases expr with
  | columnRef names =>
      simp at emitted
      exact emitted ▸ .columnRef names
  | star children =>
      simp at emitted
      exact emitted ▸ .star children
  | subquery query children =>
      simp at emitted
      exact emitted.1 ▸ .refusal _ _
  | function name children =>
      simp at emitted
      exact emitted.1 ▸ .refusal _ _
  | _ => simp at emitted

theorem contributes_tableRef
    {ref : TableRef}
    (emitted : .emit event ∈ parts scope (.tableRef ref)) :
    Contributes scope (.tableRef ref) event := by
  cases ref with
  | baseTable target tableAlias columnAliases hasAtClause atExpression =>
      simp [requiredExpr] at emitted
      rcases emitted with ⟨-, rfl, -⟩ | emitted
      · exact .refusal _ _
      · exact contributes_of_mem_baseTableEvents emitted
  | subquery query =>
      simp at emitted
      exact emitted.1 ▸ .refusal _ _
  | tableFunction function hasSubquery subquery =>
      simp at emitted
      rcases emitted with emitted | ⟨-, rfl, -⟩
      · exact contributes_of_mem_functionNameEvents emitted
      · exact .refusal _ _
  | showRef query target =>
      rw [parts] at emitted
      split_ifs at emitted with isNull
      · exact contributes_of_mem_showTargetEvents (by simpa using emitted)
      · simp at emitted
  | unsupported =>
      simp at emitted
      exact emitted ▸ .refusal _ _
  | _ => simp at emitted

theorem contributes_queryBody
    {body : QueryBody}
    (emitted : .emit event ∈ parts scope (.queryBody body)) :
    Contributes scope (.queryBody body) event := by
  cases body with
  | update node =>
      simp at emitted
      exact emitted ▸ .write rfl
  | delete node =>
      simp at emitted
      exact emitted ▸ .write rfl
  | insert node =>
      simp at emitted
      exact emitted ▸ .write rfl
  | merge node =>
      simp at emitted
      exact emitted ▸ .write rfl
  | copy info =>
      simp at emitted
      exact emitted ▸ .write rfl
  | cte cteName query child =>
      simp at emitted
      rcases emitted with ⟨rfl, -⟩ | ⟨rfl, -⟩
      · exact .refusal _ _
      · exact .refusal _ _
  | recursiveCte cteName left right =>
      simp at emitted
      rcases emitted with ⟨rfl, -⟩ | ⟨rfl, -⟩
      · exact .refusal _ _
      · exact .refusal _ _
  | unsupported =>
      simp at emitted
      exact emitted ▸ .refusal _ _
  | _ => simp at emitted

theorem contributes_statement
    {statement : Statement}
    (emitted : .emit event ∈ parts scope (.statement statement)) :
    Contributes scope (.statement statement) event := by
  cases statement with
  | createTable target hasQuery query columns constraints partitionKeys sortKeys options =>
      simp at emitted
      rcases emitted with rfl | ⟨-, rfl, -⟩ | ⟨rfl, -⟩
      · exact .definition rfl
      · exact .refusal _ _
      · exact .refusal _ _
  | createView target query =>
      simp at emitted
      rcases emitted with rfl | ⟨rfl, -⟩
      · exact .definition rfl
      · exact .refusal _ _
  | createType target query =>
      simp at emitted
      exact emitted ▸ .definition rfl
  | createMacro target =>
      simp at emitted
      rcases emitted with rfl | rfl
      · exact .definition rfl
      · exact .refusal _ _
  | createSchema target options =>
      simp at emitted
      rcases emitted with ⟨rfl, -⟩ | rfl | ⟨rfl, -⟩
      · exact .refusal _ _
      · split_ifs
        · exact .refusal _ _
        · exact .schema
      · exact .refusal _ _
  | drop isTableOrView target =>
      simp at emitted
      rcases emitted with ⟨rfl, -⟩ | named
      · exact .refusal _ _
      · exact contributes_of_mem_namedTargetEvents rfl named
  | alter target kind =>
      simp at emitted
      exact contributes_of_mem_namedTargetEvents rfl emitted
  | detach name =>
      simp at emitted
      subst emitted
      split_ifs
      · exact .refusal _ _
      · exact .catalog name
  | explain isAnalyze statement =>
      rw [parts] at emitted
      split_ifs at emitted with isNull
      · simp at emitted
        exact emitted ▸ .refusal _ _
      · simp at emitted
        rcases emitted with ⟨rfl, -⟩ | classified
        · exact .refusal _ _
        · obtain ⟨message, rfl⟩ := eq_refuse_of_mem_classifyEvents classified
          exact .refusal _ _
  | set name isGlobal value =>
      rw [parts] at emitted
      split_ifs at emitted with isNull
      · simp at emitted
        exact emitted ▸ .refusal _ _
      · simp at emitted
        rcases emitted with ⟨rfl, -⟩ | ⟨rfl, -⟩
        · exact .refusal _ _
        · exact .refusal _ _
  | pragma name parameters namedParameters =>
      simp at emitted
      exact emitted.1 ▸ .refusal _ _
  | attach options =>
      simp at emitted
      exact emitted.1 ▸ .refusal _ _
  | _ => simp at emitted <;> exact emitted ▸ .refusal _ _

/-- Whatever a node emits is one of its contributions. -/
theorem contributes_of_emit_mem_parts
    {node : Node}
    (emitted : .emit event ∈ parts scope node) :
    Contributes scope node event := by
  cases node with
  | expr expr => exact contributes_expr emitted
  | tableRef ref => exact contributes_tableRef emitted
  | queryBody body => exact contributes_queryBody emitted
  | statement statement => exact contributes_statement emitted
  | pivot pivot =>
      cases pivot
      simp at emitted
  | queryNode node => cases node <;> simp at emitted
  | cte cte =>
      cases cte with
      | nullDefinition cteName =>
          simp at emitted
          exact emitted ▸ .refusal _ _
      | definition cteName query =>
          simp at emitted
          exact emitted.1 ▸ .refusal _ _
  | modifier modifier =>
      cases modifier with
      | order expressions =>
          simp at emitted
          exact emitted.1 ▸ .refusal _ _
      | _ => simp at emitted <;> exact emitted ▸ .refusal _ _
  | setInfo info => cases info <;> simp at emitted
  | insert node =>
      cases node
      simp at emitted
      exact emitted ▸ .insertTarget
  | update node =>
      cases node
      simp at emitted
  | delete node =>
      cases node
      simp at emitted
  | merge node =>
      cases node
      simp at emitted
  | mergeAction action =>
      cases action <;> simp at emitted
      exact emitted ▸ .refusal _ _
  | copyInfo info =>
      cases info with
      | null =>
          simp at emitted
          exact emitted ▸ .refusal _ _
      | info target isFrom select filePath options =>
          simp at emitted
          rcases emitted with rfl | ⟨rfl, -⟩
          · exact .copyTarget
          · exact .refusal _ _
  | column column => cases column <;> simp at emitted
  | constraint constraint =>
      cases constraint with
      | check expression =>
          simp [requiredExpr] at emitted
          exact emitted.1 ▸ .refusal _ _
      | _ => simp at emitted <;> exact emitted ▸ .refusal _ _
  | alterKind kind =>
      cases kind with
      | alterColumnType expression =>
          simp [requiredExpr] at emitted
          exact emitted.1 ▸ .refusal _ _
      | _ => simp at emitted <;> exact emitted ▸ .refusal _ _

end Inversion

end Sql
end QuackOauth
