import QuackOauth.Sql.Descent
import QuackOauth.Sql.Effect

/-!
# The walk follows the lexical reading

The walkers push aliases on one stack and cut it back; the lexical reading passes
scopes down.  Both give the same request: a walk applies the events of its node, read
in the scope that the stack holds, and leaves the stack as it was.
-/

namespace QuackOauth
namespace Sql

open Policy

namespace WalkCtx

/-- Apply events to the request of a walk. -/
def emit (happened : List Event) (ctx : WalkCtx) : WalkCtx :=
  ctx.onReq (applyEvents happened)

/-- Change the aliases in scope. -/
def onScope (change : Scope → Scope) (ctx : WalkCtx) : WalkCtx :=
  { ctx with cteNames := change ctx.cteNames }

variable {ctx : WalkCtx} {happened : List Event}

@[simp] theorem emit_cteNames : (ctx.emit happened).cteNames = ctx.cteNames := rfl

@[simp] theorem onScope_cteNames {change : Scope → Scope} :
    (ctx.onScope change).cteNames = change ctx.cteNames := rfl

@[simp] theorem emit_nil : ctx.emit [] = ctx := rfl

@[simp] theorem emit_emit {later : List Event} :
    (ctx.emit happened).emit later = ctx.emit (happened ++ later) := by
  simp [emit, onReq, applyEvents]

theorem onScope_emit {change : Scope → Scope} :
    (ctx.onScope change).emit happened = (ctx.emit happened).onScope change := rfl

theorem onScope_onScope {first second : Scope → Scope} :
    (ctx.onScope first).onScope second = ctx.onScope fun scope => second (first scope) :=
  rfl

theorem onScope_self {change : Scope → Scope} (same : change ctx.cteNames = ctx.cteNames) :
    ctx.onScope change = ctx := by
  unfold onScope
  rw [same]

/-! Changes of the request are events. -/

@[simp] theorem refuse_eq {message : String} :
    ctx.refuse message = ctx.emit [.refuse message] := rfl

@[simp] theorem addObject_eq {target : QualifiedName} :
    ctx.onReq (addObject target) = ctx.emit [.object target] := rfl

@[simp] theorem addNamedObject_eq {object : String} :
    ctx.onReq (addNamedObject object) = ctx.emit [.namedObject object] := rfl

@[simp] theorem addFunctionObject_eq {name : String} :
    ctx.onReq (addFunctionObject name) = ctx.emit [.function name] := rfl

@[simp] theorem addColumnRef_eq {names : List String} :
    ctx.onReq (addColumnRef names) = ctx.emit [.column names] := rfl

@[simp] theorem addStar_eq : ctx.onReq (addColumn "*") = ctx.emit [.star] := rfl

theorem pushCte_eq {cteName : String} :
    ctx.pushCte cteName = ctx.onScope (· ++ [cteName]) := rfl

/-- Closing the scopes that a bind has opened gives back the stack. -/
theorem resize_onScope
    {change : Scope → Scope}
    {size : Nat}
    (sameSize : size = ctx.cteNames.length)
    (grows : ctx.cteNames <+: change ctx.cteNames) :
    (ctx.onScope change).resize size = ctx := by
  have restored : (change ctx.cteNames).take size = ctx.cteNames := by
    rw [sameSize]
    exact (List.prefix_iff_eq_take.mp grows).symm
  unfold resize onScope
  rw [restored]

end WalkCtx

/-! ## Leaves -/

theorem prefix_bindAlias (cteName : String) (scope : Scope) :
    scope <+: bindAlias cteName scope := by
  unfold bindAlias
  split_ifs with empty
  · exact List.prefix_rfl
  · exact List.prefix_append scope [cteName]

theorem prefix_bindCtes (cteMap : List Cte) (scope : Scope) :
    scope <+: bindCtes cteMap scope :=
  List.prefix_append scope (cteMap.map Cte.alias')

section Leaves

variable (ctx : WalkCtx)

theorem resize_openAlias
    {size : Nat}
    {cteName : String}
    (sameSize : size = ctx.cteNames.length) :
    (ctx.onScope (bindAlias cteName)).resize size = ctx :=
  WalkCtx.resize_onScope sameSize (prefix_bindAlias cteName ctx.cteNames)

theorem resize_bindCtes
    {size : Nat}
    {cteMap : List Cte}
    (sameSize : size = ctx.cteNames.length) :
    (ctx.onScope (bindCtes cteMap)).resize size = ctx :=
  WalkCtx.resize_onScope sameSize (prefix_bindCtes cteMap ctx.cteNames)

theorem openAlias_eq (cteName : String) :
    openAlias cteName ctx = ctx.onScope (bindAlias cteName) := by
  unfold openAlias bindAlias
  split_ifs with empty
  · rfl
  · rfl

theorem refuseUnless_eq (condition : Bool) (message : String) :
    refuseUnless condition message ctx =
      ctx.emit (syntaxTree.partsYield (unlessPart condition message)) := by
  unfold refuseUnless unlessPart
  split_ifs with holds
  · rfl
  · rfl

theorem isCte_eq_boundToCte (target : QualifiedName) :
    (target.catalog = "" ∧ target.schema = "" ∧
      ctx.isCte (lowerAscii target.name) = true) ↔
      boundToCte ctx.cteNames target = true := by
  simp [boundToCte, WalkCtx.isCte, and_assoc]

theorem walkBaseTable_eq (target : QualifiedName) :
    walkBaseTable target ctx = ctx.emit (baseTableEvents ctx.cteNames target) := by
  unfold walkBaseTable baseTableEvents
  simp only [isCte_eq_boundToCte]
  split_ifs with bound path
  · rfl
  · rfl
  · rfl

theorem walkShowTarget_eq (target : QualifiedName) :
    walkShowTarget target ctx = ctx.emit (showTargetEvents ctx.cteNames target) := by
  unfold walkShowTarget showTargetEvents
  simp only [isCte_eq_boundToCte]
  split_ifs with showsVariables listing empty path bound
  · rfl
  · rfl
  · rfl
  · rfl
  · rfl
  · rfl

theorem walkTableFunctionName_eq (name : String) :
    walkTableFunctionName name ctx = ctx.emit (functionNameEvents name) := by
  unfold walkTableFunctionName functionNameEvents
  dsimp only
  split_ifs with unnamed dynamic
  · rfl
  · rfl
  · rfl

theorem walkNamedTarget_eq (message : String) (target : QualifiedName) :
    walkNamedTarget message target ctx = ctx.emit (namedTargetEvents message target) := by
  unfold walkNamedTarget namedTargetEvents
  split_ifs with unnamed
  · rfl
  · rfl

/-- A write node is refused unless the verb of the request admits it. -/
theorem refuseUnless_write_eq (kind : WriteKind) :
    refuseUnless (kind.admittedBy ctx.req.action) kind.message ctx =
      ctx.emit [.write kind] := by
  unfold refuseUnless
  split_ifs with admitted
  · simp [WalkCtx.emit, WalkCtx.onReq, applyEvents, Event.apply, admitted]
  · simp [WalkCtx.emit, WalkCtx.onReq, applyEvents, Event.apply, admitted,
      WalkCtx.refuse]

end Leaves

/-! ## Trees -/

section Trees

variable {ctx : WalkCtx}

@[simp] theorem emit_requiredQuery {message : String} {query : QueryNode} :
    (if query.isNull = true then ctx.emit [.refuse message]
      else ctx.emit (events ctx.cteNames (.queryNode query))) =
        ctx.emit (syntaxTree.partsYield (requiredQuery message ctx.cteNames query)) := by
  unfold requiredQuery
  split_ifs with isNull
  · rfl
  · simp

@[simp] theorem emit_requiredExpr {message : String} {expr : Expr} :
    (if expr.isNull = true then ctx.emit [.refuse message]
      else ctx.emit (events ctx.cteNames (.expr expr))) =
        ctx.emit (syntaxTree.partsYield (requiredExpr message ctx.cteNames expr)) := by
  unfold requiredExpr requiredParts
  split_ifs with isNull
  · simp [isNull]
  · simp [isNull]

/-- The events of a `WITH` list, after which its aliases are on the stack. -/
def enterCtes (cteMap : List Cte) (ctx : WalkCtx) : WalkCtx :=
  (ctx.emit (syntaxTree.partsYield (cteParts ctx.cteNames cteMap))).onScope
    (bindCtes cteMap)

mutual

theorem walkExpression_eq : (expr : Expr) → (ctx : WalkCtx) →
    walkExpression expr ctx = ctx.emit (events ctx.cteNames (.expr expr))
  | .null, ctx => by
      rw [walkExpression, events_eq]
      simp [parts]
  | .columnRef names, ctx => by
      rw [walkExpression, events_eq]
      simp [parts]
  | .star children, ctx => by
      rw [walkExpression, events_eq, walkExpressions_eq children]
      simp [parts]
  | .subquery query children, ctx => by
      rw [walkExpression, events_eq, walkExpressions_eq children, walkQueryNode_eq query]
      simp [parts]
  | .function name children, ctx => by
      rw [walkExpression, events_eq, walkExpressions_eq children]
      cases touches : touchesState (lowerAscii name) with
      | false => simp [parts, touches, unlessPart]
      | true => simp [parts, touches, unlessPart]
  | .positionalReference index, ctx => by
      rw [walkExpression, events_eq]
      simp [parts]
  | .constant text, ctx => by
      rw [walkExpression, events_eq]
      simp [parts]
  | .other children, ctx => by
      rw [walkExpression, events_eq, walkExpressions_eq children]
      simp [parts]

theorem walkExpressions_eq : (expressions : List Expr) → (ctx : WalkCtx) →
    walkExpressions expressions ctx =
      ctx.emit (syntaxTree.partsYield (exprParts ctx.cteNames expressions))
  | [], ctx => rfl
  | expr :: rest, ctx => by
      rw [walkExpressions, walkExpression_eq expr, walkExpressions_eq rest]
      simp [exprParts]

theorem walkRequired_eq (message : String) : (expressions : List Expr) → (ctx : WalkCtx) →
    walkRequired message expressions ctx =
      ctx.emit (syntaxTree.partsYield (requiredParts message ctx.cteNames expressions))
  | [], ctx => rfl
  | expr :: rest, ctx => by
      rw [walkRequired, walkExpression_eq expr, walkRequired_eq message rest]
      simp [requiredParts, requiredExpr]

theorem walkTableRef_eq : (ref : TableRef) → (ctx : WalkCtx) →
    walkTableRef ref ctx = ctx.emit (events ctx.cteNames (.tableRef ref))
  | .null, ctx => by
      rw [walkTableRef, events_eq]
      simp [parts]
  | .baseTable target tableAlias columnAliases hasAtClause atExpression, ctx => by
      rw [walkTableRef, events_eq, walkExpression_eq atExpression]
      cases hasAtClause with
      | false => simp [parts, walkBaseTable_eq]
      | true => simp [parts, walkBaseTable_eq]
  | .join left right condition usingColumns isNatural, ctx => by
      rw [walkTableRef, events_eq, walkTableRef_eq left, walkTableRef_eq right,
        walkExpression_eq condition]
      simp [parts]
  | .subquery query, ctx => by
      rw [walkTableRef, events_eq, walkQueryNode_eq query]
      simp [parts]
  | .tableFunction function hasSubquery subquery, ctx => by
      rw [walkTableRef, events_eq]
      simp only [walkExpression_eq function, walkQueryNode_eq subquery,
        walkTableFunctionName_eq]
      cases hasSubquery with
      | false => simp [parts]
      | true =>
          cases isNull : subquery.isNull with
          | false => simp [parts, requiredQuery, isNull]
          | true => simp [parts, requiredQuery, isNull]
  | .pivot source aggregates pivots groups, ctx => by
      rw [walkTableRef, events_eq, walkTableRef_eq source, walkExpressions_eq aggregates,
        walkPivots_eq pivots]
      simp [parts]
  | .expressionList values, ctx => by
      rw [walkTableRef, events_eq, walkExpressions_eq values]
      simp [parts]
  | .showRef query target, ctx => by
      rw [walkTableRef, events_eq, walkShowTarget_eq, walkQueryNode_eq query]
      cases isNull : query.isNull with
      | false => simp [parts, isNull]
      | true => simp [parts, isNull]
  | .inert, ctx => by
      rw [walkTableRef, events_eq]
      simp [parts]
  | .unsupported, ctx => by
      rw [walkTableRef, events_eq]
      simp [parts]

theorem walkTableRefs_eq : (refs : List TableRef) → (ctx : WalkCtx) →
    walkTableRefs refs ctx =
      ctx.emit (syntaxTree.partsYield
        (refs.map fun ref => .visit (ctx.cteNames, .tableRef ref)))
  | [], ctx => rfl
  | ref :: rest, ctx => by
      rw [walkTableRefs, walkTableRef_eq ref, walkTableRefs_eq rest]
      simp

theorem walkPivot_eq : (pivot : PivotColumn) → (ctx : WalkCtx) →
    walkPivot pivot ctx = ctx.emit (events ctx.cteNames (.pivot pivot))
  | .mk pivotExpressions subquery entries, ctx => by
      rw [walkPivot, events_eq, walkExpressions_eq pivotExpressions,
        walkQueryNode_eq subquery, walkExpressions_eq entries]
      simp [parts]

theorem walkPivots_eq : (pivots : List PivotColumn) → (ctx : WalkCtx) →
    walkPivots pivots ctx =
      ctx.emit (syntaxTree.partsYield
        (pivots.map fun pivot => .visit (ctx.cteNames, .pivot pivot)))
  | [], ctx => rfl
  | pivot :: rest, ctx => by
      rw [walkPivots, walkPivot_eq pivot, walkPivots_eq rest]
      simp

theorem walkCte_eq : (cte : Cte) → (ctx : WalkCtx) →
    walkCte cte ctx =
      (ctx.emit (events ctx.cteNames (.cte cte))).onScope (· ++ [cte.alias'])
  | .nullDefinition cteName, ctx => by
      rw [walkCte, events_eq, WalkCtx.pushCte_eq]
      simp [parts, Cte.alias']
  | .definition cteName query, ctx => by
      rw [walkCte, events_eq, WalkCtx.pushCte_eq, walkQueryNode_eq query]
      simp [parts, Cte.alias']

theorem walkCtes_eq : (cteMap : List Cte) → (ctx : WalkCtx) →
    walkCtes cteMap ctx = enterCtes cteMap ctx
  | [], ctx => by
      rw [walkCtes, enterCtes, cteParts]
      exact (WalkCtx.onScope_self (List.append_nil _)).symm
  | cte :: rest, ctx => by
      rw [walkCtes, walkCte_eq cte, walkCtes_eq rest]
      simp [enterCtes, cteParts, WalkCtx.onScope_emit, WalkCtx.onScope_onScope]
      simp [WalkCtx.onScope, bindCtes]

theorem walkModifier_eq : (modifier : Modifier) → (ctx : WalkCtx) →
    walkModifier modifier ctx = ctx.emit (events ctx.cteNames (.modifier modifier))
  | .null, ctx => by
      rw [walkModifier, events_eq]
      simp [parts]
  | .order expressions, ctx => by
      rw [walkModifier, events_eq, walkRequired_eq _ expressions]
      simp [parts]
  | .limit limit offset, ctx => by
      rw [walkModifier, events_eq, walkExpression_eq limit, walkExpression_eq offset]
      simp [parts, exprParts]
  | .distinct targets, ctx => by
      rw [walkModifier, events_eq, walkExpressions_eq targets]
      simp [parts]
  | .limitPercent limit offset, ctx => by
      rw [walkModifier, events_eq, walkExpression_eq limit, walkExpression_eq offset]
      simp [parts, exprParts]
  | .unsupported, ctx => by
      rw [walkModifier, events_eq]
      simp [parts]

theorem walkModifiers_eq : (modifiers : List Modifier) → (ctx : WalkCtx) →
    walkModifiers modifiers ctx =
      ctx.emit (syntaxTree.partsYield
        (modifiers.map fun modifier => .visit (ctx.cteNames, .modifier modifier)))
  | [], ctx => rfl
  | modifier :: rest, ctx => by
      rw [walkModifiers, walkModifier_eq modifier, walkModifiers_eq rest]
      simp

theorem walkSetInfo_eq : (info : SetInfo) → (ctx : WalkCtx) →
    walkSetInfo info ctx = ctx.emit (events ctx.cteNames (.setInfo info))
  | .null, ctx => by
      rw [walkSetInfo, events_eq]
      simp [parts]
  | .info expressions condition, ctx => by
      rw [walkSetInfo, events_eq, walkExpressions_eq expressions,
        walkExpression_eq condition]
      simp [parts, exprParts]

theorem walkInsert_eq : (node : InsertNode) → (ctx : WalkCtx) →
    walkInsert node ctx = ctx.emit (events ctx.cteNames (.insert node))
  | .mk target select tableRef returning conflictSet conflictCondition, ctx => by
      rw [walkInsert, events_eq]
      simp [parts, walkQueryNode_eq select, walkTableRef_eq tableRef,
        walkExpressions_eq returning, walkSetInfo_eq conflictSet,
        walkExpression_eq conflictCondition]

theorem walkUpdate_eq : (node : UpdateNode) → (ctx : WalkCtx) →
    walkUpdate node ctx = ctx.emit (events ctx.cteNames (.update node))
  | .mk table fromTable setInfo returning, ctx => by
      rw [walkUpdate, events_eq]
      simp [parts, walkTableRef_eq table, walkTableRef_eq fromTable, walkSetInfo_eq setInfo,
        walkExpressions_eq returning]

theorem walkDelete_eq : (node : DeleteNode) → (ctx : WalkCtx) →
    walkDelete node ctx = ctx.emit (events ctx.cteNames (.delete node))
  | .mk table usingClauses condition returning, ctx => by
      rw [walkDelete, events_eq]
      simp [parts, walkTableRef_eq table, walkTableRefs_eq usingClauses,
        walkExpression_eq condition, walkExpressions_eq returning]

theorem walkMerge_eq : (node : MergeNode) → (ctx : WalkCtx) →
    walkMerge node ctx = ctx.emit (events ctx.cteNames (.merge node))
  | .mk target source joinCondition actions returning, ctx => by
      rw [walkMerge, events_eq]
      simp [parts, walkTableRef_eq target, walkTableRef_eq source,
        walkExpression_eq joinCondition, walkMergeActions_eq actions,
        walkExpressions_eq returning]

theorem walkMergeAction_eq : (action : MergeAction) → (ctx : WalkCtx) →
    walkMergeAction action ctx = ctx.emit (events ctx.cteNames (.mergeAction action))
  | .null, ctx => by
      rw [walkMergeAction, events_eq]
      simp [parts]
  | .action actionType condition updateInfo expressions, ctx => by
      rw [walkMergeAction, events_eq, walkExpression_eq condition,
        walkSetInfo_eq updateInfo, walkExpressions_eq expressions]
      simp [parts]

theorem walkMergeActions_eq : (actions : List MergeAction) → (ctx : WalkCtx) →
    walkMergeActions actions ctx =
      ctx.emit (syntaxTree.partsYield
        (actions.map fun action => .visit (ctx.cteNames, .mergeAction action)))
  | [], ctx => rfl
  | action :: rest, ctx => by
      rw [walkMergeActions, walkMergeAction_eq action, walkMergeActions_eq rest]
      simp

theorem walkCopyInfo_eq : (info : CopyInfo) → (ctx : WalkCtx) →
    walkCopyInfo info ctx = ctx.emit (events ctx.cteNames (.copyInfo info))
  | .null, ctx => by
      rw [walkCopyInfo, events_eq]
      simp [parts]
  | .info target isFrom select filePath options, ctx => by
      rw [walkCopyInfo, events_eq]
      simp [parts, walkQueryNode_eq select, walkExpression_eq filePath,
        walkRequired_eq _ options]

theorem walkQueryBody_eq : (body : QueryBody) → (ctx : WalkCtx) →
    walkQueryBody body ctx = ctx.emit (events ctx.cteNames (.queryBody body))
  | .select fromTable selectList whereClause having qualify groups, ctx => by
      rw [walkQueryBody, events_eq]
      simp [parts, exprParts, walkTableRef_eq fromTable, walkExpressions_eq selectList,
        walkExpression_eq whereClause, walkExpression_eq having, walkExpression_eq qualify,
        walkExpressions_eq groups]
  | .setOperation children, ctx => by
      rw [walkQueryBody, events_eq, walkQueryNodes_eq children]
      simp [parts]
  | .cte cteName query child, ctx => by
      rw [walkQueryBody, events_eq]
      simp only [walkQueryNode_eq query, walkQueryNode_eq child, WalkCtx.refuse_eq,
        openAlias_eq, emit_requiredQuery]
      simp [parts, WalkCtx.onScope_emit]
      exact resize_openAlias _ rfl
  | .recursiveCte cteName left right, ctx => by
      rw [walkQueryBody, events_eq]
      simp only [walkQueryNode_eq left, walkQueryNode_eq right, WalkCtx.refuse_eq,
        openAlias_eq, emit_requiredQuery]
      simp [parts, WalkCtx.onScope_emit]
      exact resize_openAlias _ rfl
  | .boundSubquery, ctx => by
      rw [walkQueryBody, events_eq]
      simp [parts]
  | .update node, ctx => by
      have refused := refuseUnless_write_eq ctx .update
      rw [WriteKind.admittedBy, WriteKind.message] at refused
      rw [walkQueryBody, events_eq, walkUpdate_eq node, refused]
      simp [parts]
  | .delete node, ctx => by
      have refused := refuseUnless_write_eq ctx .delete
      rw [WriteKind.admittedBy, WriteKind.message] at refused
      rw [walkQueryBody, events_eq, walkDelete_eq node, refused]
      simp [parts]
  | .insert node, ctx => by
      have refused := refuseUnless_write_eq ctx .insert
      rw [WriteKind.admittedBy, WriteKind.message] at refused
      rw [walkQueryBody, events_eq, walkInsert_eq node, refused]
      simp [parts]
  | .merge node, ctx => by
      have refused := refuseUnless_write_eq ctx (.merge (mergeOnlyUpdates node))
      rw [WriteKind.admittedBy, WriteKind.message] at refused
      rw [walkQueryBody, events_eq, walkMerge_eq node, refused]
      simp [parts]
  | .copy info, ctx => by
      have refused := refuseUnless_write_eq ctx .copy
      rw [WriteKind.admittedBy, WriteKind.message] at refused
      rw [walkQueryBody, events_eq, walkCopyInfo_eq info, refused]
      simp [parts]
  | .unsupported, ctx => by
      rw [walkQueryBody, events_eq]
      simp [parts]

theorem walkQueryNode_eq : (node : QueryNode) → (ctx : WalkCtx) →
    walkQueryNode node ctx = ctx.emit (events ctx.cteNames (.queryNode node))
  | .null, ctx => by
      rw [walkQueryNode, events_eq]
      simp [parts]
  | .node cteMap modifiers body, ctx => by
      rw [walkQueryNode, events_eq, walkCtes_eq cteMap]
      simp [parts, walkModifiers_eq modifiers, walkQueryBody_eq body, enterCtes,
        WalkCtx.onScope_emit]
      exact resize_bindCtes _ rfl

theorem walkQueryNodes_eq : (nodes : List QueryNode) → (ctx : WalkCtx) →
    walkQueryNodes nodes ctx =
      ctx.emit (syntaxTree.partsYield
        (nodes.map fun node => .visit (ctx.cteNames, .queryNode node)))
  | [], ctx => rfl
  | node :: rest, ctx => by
      rw [walkQueryNodes, walkQueryNode_eq node, walkQueryNodes_eq rest]
      simp

end

end Trees

end Sql
end QuackOauth
