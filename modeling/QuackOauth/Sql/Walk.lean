import QuackOauth.Sql.Surface

/-!
# Walking the syntax tree

The walkers carry the request they build and the stack of `WITH` aliases in scope.
An alias is pushed where a scope opens and the stack is cut back where it closes.
-/

namespace QuackOauth
namespace Sql

open Policy

/-- The state of a walk. -/
structure WalkCtx where
  req : AuthzRequest
  /-- The aliases in scope, the latest last. -/
  cteNames : List String := []

namespace WalkCtx

def isCte (ctx : WalkCtx) (name : String) : Bool :=
  name ∈ ctx.cteNames

/-- Change the request. -/
def onReq (change : AuthzRequest → AuthzRequest) (ctx : WalkCtx) : WalkCtx :=
  { ctx with req := change ctx.req }

/-- Bring an alias into scope. -/
def pushCte (cteName : String) (ctx : WalkCtx) : WalkCtx :=
  { ctx with cteNames := ctx.cteNames ++ [cteName] }

/-- Close the scopes that were opened since the stack had a size. -/
def resize (size : Nat) (ctx : WalkCtx) : WalkCtx :=
  { ctx with cteNames := ctx.cteNames.take size }

/-- Refuse the request. -/
def refuse (message : String) (ctx : WalkCtx) : WalkCtx :=
  ctx.onReq (flagUnsafe message)

end WalkCtx

/-! ## Leaves -/

/-- A table that is named in a `FROM` clause.  A bare name that an alias in scope
carries is a reference to the `WITH` entry. -/
def walkBaseTable (target : QualifiedName) (ctx : WalkCtx) : WalkCtx :=
  if target.catalog = "" ∧ target.schema = "" ∧
      ctx.isCte (lowerAscii target.name) = true then ctx
  else if isReplacementScanName target then ctx.refuse "path-like replacement scan"
  else ctx.onReq (addObject target)

/-- The target of a `SHOW` or `DESCRIBE`.  A few spellings list the catalog. -/
def walkShowTarget (target : QualifiedName) (ctx : WalkCtx) : WalkCtx :=
  let name := target.name
  if name = "\"variables\"" then ctx.refuse "SHOW VARIABLES exposes session variables"
  else if name = "\"databases\"" ∨ name = "\"schemas\"" ∨ name = "\"tables\"" ∨
      name = "__show_tables_expanded" then ctx
  else if name = "" then ctx.refuse "SHOW without inspectable target"
  else if isReplacementScanName target then ctx.refuse "path-like SHOW target"
  else if target.catalog = "" ∧ target.schema = "" ∧
      ctx.isCte (lowerAscii target.name) = true then ctx
  else ctx.onReq (addObject target)

/-- The name of a table function. -/
def walkTableFunctionName (name : String) (ctx : WalkCtx) : WalkCtx :=
  if name = "" then
    ctx.onReq fun req => { req with isUnsafe := true, error := "unnamed table function" }
  else
    let ctx := ctx.onReq (addFunctionObject name)
    let lowered := lowerAscii name
    if lowered = "query" ∨ lowered = "query_table" then
      ctx.refuse "dynamic SQL table function"
    else ctx

/-- Open the scope of one alias. -/
def openAlias (cteName : String) (ctx : WalkCtx) : WalkCtx :=
  if cteName = "" then ctx else ctx.pushCte cteName

/-- Whether a `MERGE` updates, and does nothing else. -/
def mergeOnlyUpdates : MergeNode → Bool
  | .mk _ _ _ actions _ => !actions.isEmpty && actions.all fun
      | .action .mergeUpdate _ _ _ => true
      | _ => false

/-- Refuse the request unless a condition holds. -/
def refuseUnless (condition : Bool) (message : String) (ctx : WalkCtx) : WalkCtx :=
  if condition then ctx else ctx.refuse message

/-! ## Trees -/

mutual

def walkExpression : Expr → WalkCtx → WalkCtx
  | .null, ctx => ctx
  | .columnRef names, ctx => ctx.onReq (addColumnRef names)
  | .star children, ctx => walkExpressions children (ctx.onReq (addColumn "*"))
  | .subquery query children, ctx =>
      walkExpressions children
        (if query.isNull then ctx.refuse "null expression subquery"
        else walkQueryNode query ctx)
  | .function name children, ctx =>
      walkExpressions children
        (if touchesState (lowerAscii name) then
          ctx.refuse "state-reading or mutating scalar function"
        else ctx)
  | .positionalReference _, ctx => ctx
  | .constant _, ctx => ctx
  | .other children, ctx => walkExpressions children ctx

def walkExpressions : List Expr → WalkCtx → WalkCtx
  | [], ctx => ctx
  | expr :: rest, ctx => walkExpressions rest (walkExpression expr ctx)

/-- Walk expressions none of which may be null. -/
def walkRequired (message : String) : List Expr → WalkCtx → WalkCtx
  | [], ctx => ctx
  | expr :: rest, ctx =>
      walkRequired message rest
        (if expr.isNull then ctx.refuse message else walkExpression expr ctx)

def walkTableRef : TableRef → WalkCtx → WalkCtx
  | .null, ctx => ctx
  | .baseTable target _ _ hasAtClause atExpression, ctx =>
      walkBaseTable target
        (if !hasAtClause then ctx
        else if atExpression.isNull then ctx.refuse "null AT clause expression"
        else walkExpression atExpression ctx)
  | .join left right condition _ _, ctx =>
      walkExpression condition (walkTableRef right (walkTableRef left ctx))
  | .subquery query, ctx =>
      if query.isNull then ctx.refuse "null subquery ref" else walkQueryNode query ctx
  | .tableFunction function hasSubquery subquery, ctx =>
      let ctx := walkExpression function (walkTableFunctionName function.functionName ctx)
      if !hasSubquery then ctx
      else if subquery.isNull then ctx.refuse "null table-function subquery"
      else walkQueryNode subquery ctx
  | .pivot source aggregates pivots _, ctx =>
      walkPivots pivots (walkExpressions aggregates (walkTableRef source ctx))
  | .expressionList values, ctx => walkExpressions values ctx
  | .showRef query target, ctx =>
      if query.isNull then walkShowTarget target ctx else walkQueryNode query ctx
  | .inert, ctx => ctx
  | .unsupported, ctx => ctx.refuse "unsupported table reference"

def walkTableRefs : List TableRef → WalkCtx → WalkCtx
  | [], ctx => ctx
  | ref :: rest, ctx => walkTableRefs rest (walkTableRef ref ctx)

def walkPivot : PivotColumn → WalkCtx → WalkCtx
  | .mk pivotExpressions subquery entries, ctx =>
      walkExpressions entries (walkQueryNode subquery (walkExpressions pivotExpressions ctx))

def walkPivots : List PivotColumn → WalkCtx → WalkCtx
  | [], ctx => ctx
  | pivot :: rest, ctx => walkPivots rest (walkPivot pivot ctx)

/-- Walk an entry of a `WITH` list and bring its alias into scope. -/
def walkCte : Cte → WalkCtx → WalkCtx
  | .nullDefinition cteName, ctx =>
      (ctx.refuse "null CTE definition").pushCte (lowerAscii cteName)
  | .definition cteName query, ctx =>
      (if query.isNull then ctx.refuse "null CTE query"
        else walkQueryNode query ctx).pushCte (lowerAscii cteName)

/-- Open the scope of a `WITH` list, entry by entry. -/
def walkCtes : List Cte → WalkCtx → WalkCtx
  | [], ctx => ctx
  | cte :: rest, ctx => walkCtes rest (walkCte cte ctx)

def walkModifier : Modifier → WalkCtx → WalkCtx
  | .null, ctx => ctx.refuse "null query modifier"
  | .order expressions, ctx => walkRequired "null ORDER BY expression" expressions ctx
  | .limit limit offset, ctx => walkExpression offset (walkExpression limit ctx)
  | .distinct targets, ctx => walkExpressions targets ctx
  | .limitPercent limit offset, ctx => walkExpression offset (walkExpression limit ctx)
  | .unsupported, ctx => ctx.refuse "unsupported query modifier"

def walkModifiers : List Modifier → WalkCtx → WalkCtx
  | [], ctx => ctx
  | modifier :: rest, ctx => walkModifiers rest (walkModifier modifier ctx)

def walkSetInfo : SetInfo → WalkCtx → WalkCtx
  | .null, ctx => ctx
  | .info expressions condition, ctx =>
      walkExpression condition (walkExpressions expressions ctx)

def walkInsert : InsertNode → WalkCtx → WalkCtx
  | .mk target select tableRef returning conflictSet conflictCondition, ctx =>
      let ctx := walkQueryNode select (ctx.onReq (addObject target))
      let ctx := walkExpressions returning (walkTableRef tableRef ctx)
      walkExpression conflictCondition (walkSetInfo conflictSet ctx)

def walkUpdate : UpdateNode → WalkCtx → WalkCtx
  | .mk table fromTable setInfo returning, ctx =>
      let ctx := walkTableRef fromTable (walkTableRef table ctx)
      walkExpressions returning (walkSetInfo setInfo ctx)

def walkDelete : DeleteNode → WalkCtx → WalkCtx
  | .mk table usingClauses condition returning, ctx =>
      let ctx := walkTableRefs usingClauses (walkTableRef table ctx)
      walkExpressions returning (walkExpression condition ctx)

def walkMerge : MergeNode → WalkCtx → WalkCtx
  | .mk target source joinCondition actions returning, ctx =>
      let ctx := walkExpression joinCondition (walkTableRef source (walkTableRef target ctx))
      walkExpressions returning (walkMergeActions actions ctx)

def walkMergeAction : MergeAction → WalkCtx → WalkCtx
  | .null, ctx => ctx.refuse "null MERGE action"
  | .action _ condition updateInfo expressions, ctx =>
      walkExpressions expressions (walkSetInfo updateInfo (walkExpression condition ctx))

def walkMergeActions : List MergeAction → WalkCtx → WalkCtx
  | [], ctx => ctx
  | action :: rest, ctx => walkMergeActions rest (walkMergeAction action ctx)

def walkCopyInfo : CopyInfo → WalkCtx → WalkCtx
  | .null, ctx => ctx.refuse "null COPY info"
  | .info target _ select filePath options, ctx =>
      let ctx := walkQueryNode select (ctx.onReq (addObject target))
      walkRequired "null named expression" options (walkExpression filePath ctx)

def walkQueryBody : QueryBody → WalkCtx → WalkCtx
  | .select fromTable selectList whereClause having qualify groups, ctx =>
      let ctx := walkExpressions selectList (walkTableRef fromTable ctx)
      let ctx := walkExpression qualify (walkExpression having
        (walkExpression whereClause ctx))
      walkExpressions groups ctx
  | .setOperation children, ctx => walkQueryNodes children ctx
  | .cte cteName query child, ctx =>
      let ctx := if query.isNull then ctx.refuse "null CTE body"
        else walkQueryNode query ctx
      let size := ctx.cteNames.length
      let ctx := openAlias (lowerAscii cteName) ctx
      let ctx := if child.isNull then ctx.refuse "null CTE child"
        else walkQueryNode child ctx
      ctx.resize size
  | .recursiveCte cteName left right, ctx =>
      let ctx := if left.isNull then ctx.refuse "null recursive CTE seed"
        else walkQueryNode left ctx
      let size := ctx.cteNames.length
      let ctx := openAlias (lowerAscii cteName) ctx
      let ctx := if right.isNull then ctx.refuse "null recursive CTE arm"
        else walkQueryNode right ctx
      ctx.resize size
  | .boundSubquery, ctx => ctx
  | .update node, ctx =>
      walkUpdate node
        (refuseUnless (ctx.req.action = .update) "UPDATE hidden in query" ctx)
  | .delete node, ctx =>
      walkDelete node
        (refuseUnless (ctx.req.action = .delete) "DELETE hidden in query" ctx)
  | .insert node, ctx =>
      walkInsert node
        (refuseUnless (ctx.req.action = .insert) "INSERT hidden in query" ctx)
  | .merge node, ctx =>
      walkMerge node
        (refuseUnless (ctx.req.action = .update && mergeOnlyUpdates node)
          "MERGE hidden in query" ctx)
  -- Whether the copy goes to a file or comes from one is not looked at.
  | .copy info, ctx =>
      walkCopyInfo info
        (refuseUnless (ctx.req.action = .copyTo) "COPY hidden in query" ctx)
  | .unsupported, ctx => ctx.refuse "unsupported query node"

def walkQueryNode : QueryNode → WalkCtx → WalkCtx
  | .null, ctx => ctx
  | .node cteMap modifiers body, ctx =>
      let size := ctx.cteNames.length
      (walkQueryBody body (walkModifiers modifiers (walkCtes cteMap ctx))).resize size

def walkQueryNodes : List QueryNode → WalkCtx → WalkCtx
  | [], ctx => ctx
  | node :: rest, ctx => walkQueryNodes rest (walkQueryNode node ctx)

end

/-! ## Statements -/

def walkColumn : ColumnDefinition → WalkCtx → WalkCtx
  | .plain, ctx => ctx
  | .generated expression, ctx => walkExpression expression ctx
  | .withDefault expression, ctx => walkExpression expression ctx

def walkConstraint : Constraint → WalkCtx → WalkCtx
  | .null, ctx => ctx.refuse "null CREATE TABLE constraint"
  | .check expression, ctx =>
      if expression.isNull then ctx.refuse "null CHECK expression"
      else walkExpression expression ctx
  | .notNull, ctx => ctx
  | .unique, ctx => ctx
  | .foreignKey, ctx => ctx
  | .unknown, ctx => ctx.refuse "unknown CREATE TABLE constraint"

def walkAlterKind : AlterKind → WalkCtx → WalkCtx
  | .notTable, ctx => ctx.refuse "unsupported ALTER kind"
  | .renameColumn, ctx => ctx
  | .renameTable, ctx => ctx
  | .removeColumn, ctx => ctx
  | .setNotNull, ctx => ctx
  | .dropNotNull, ctx => ctx
  | .alterColumnType expression, ctx =>
      if expression.isNull then ctx.refuse "null ALTER TYPE expression"
      else walkExpression expression ctx
  | .setDefault expression, ctx => walkExpression expression ctx
  | .addColumn column, ctx => walkColumn column ctx
  | .unsupported, ctx => ctx.refuse "unsupported ALTER subtype"

/-- Walk a `WITH` list and then what it is in front of, in its scope. -/
def inCteScope (cteMap : List Cte) (walk : WalkCtx → WalkCtx) (ctx : WalkCtx) : WalkCtx :=
  (walk (walkCtes cteMap ctx)).resize ctx.cteNames.length

/-- Name a target that must have a name. -/
def walkNamedTarget
    (message : String)
    (target : QualifiedName)
    (ctx : WalkCtx) : WalkCtx :=
  if target.name = "" then ctx.refuse message else ctx.onReq (addObject target)

/-- The verb of a statement.  Some statements are refused here. -/
def classifyStatement : Statement → WalkCtx → Action × WalkCtx
  | .select _, ctx => (.scan, ctx)
  | .explain _ _, ctx => (.scan, ctx)
  | .relation, ctx => (.scan, ctx)
  | .insert _ _, ctx => (.insert, ctx)
  | .update _ _, ctx => (.update, ctx)
  | .delete _ _, ctx => (.delete, ctx)
  | .merge _ node, ctx =>
      (.update, refuseUnless (mergeOnlyUpdates node) "MERGE has non-UPDATE action" ctx)
  | .createNull, ctx => (.ddl, ctx)
  | .createTable _ _ _ _ _ _ _ _, ctx => (.ddl, ctx)
  | .createView _ _, ctx => (.ddl, ctx)
  | .createType _ _, ctx => (.ddl, ctx)
  | .createMacro _, ctx => (.ddl, ctx)
  | .createSchema _ _, ctx => (.ddl, ctx)
  | .createUnsupported, ctx => (.ddl, ctx)
  | .dropNull, ctx => (.ddl, ctx)
  | .drop _ _, ctx => (.ddl, ctx)
  | .alterNull, ctx => (.ddl, ctx)
  | .alter _ _, ctx => (.ddl, ctx)
  | .transaction, ctx => (.ddl, ctx)
  | .detachNull, ctx => (.ddl, ctx)
  | .detach _, ctx => (.ddl, ctx)
  | .createFunction, ctx => (.ddl, ctx.refuse "CREATE FUNCTION body is not inspectable")
  | .copy (.info _ true _ _ _), ctx => (.copyFrom, ctx)
  | .copy _, ctx => (.copyTo, ctx)
  | .attachNull, ctx => (.attach, ctx)
  | .attach _, ctx => (.attach, ctx)
  | .pragmaNull, ctx => (.pragma, ctx.refuse "null PRAGMA info")
  | .pragma name _ _, ctx =>
      let name := lowerAscii name
      if name = "quack_serve" ∨ name = "quack_stop" ∨ name = "quack_restart" then
        (.serveAdmin, ctx)
      else
        let ctx := refuseUnless (!hasStart name "quack_oauth_")
          "quack_oauth PRAGMA is not inspectable" ctx
        (.pragma, refuseUnless (allowedPragma name) "PRAGMA is not allowlisted" ctx)
  | .set name isGlobal _, ctx => (.pragma, checkSetting name isGlobal ctx)
  | .reset name isGlobal, ctx =>
      (.pragma, (checkSetting name isGlobal ctx).refuse "RESET changes shared state")
  | .load, ctx => (.ddl, ctx.refuse "extension LOAD or INSTALL")
  | .null, ctx => (.scan, ctx.refuse "unsupported statement type")
  | .unsupported, ctx => (.scan, ctx.refuse "unsupported statement type")
where
  /-- The settings that may be set, for the session only. -/
  checkSetting (name : String) (isGlobal : Bool) (ctx : WalkCtx) : WalkCtx :=
    let name := lowerAscii name
    let ctx := refuseUnless (!hasStart name "quack_oauth_" && allowedSetting name)
      "SET/RESET is not allowlisted" ctx
    refuseUnless (!isGlobal) "GLOBAL SET/RESET changes shared state" ctx

def walkStatement : Statement → WalkCtx → WalkCtx
  | .select node, ctx => walkQueryNode node ctx
  | .explain isAnalyze statement, ctx =>
      if statement.isNull then ctx.refuse "null EXPLAIN statement"
      else
        let ctx := refuseUnless (!isAnalyze) "EXPLAIN ANALYZE may execute SQL" ctx
        walkStatement statement (classifyStatement statement ctx).2
  | .insert cteMap node, ctx => inCteScope cteMap (walkInsert node) ctx
  | .update cteMap node, ctx => inCteScope cteMap (walkUpdate node) ctx
  | .delete cteMap node, ctx => inCteScope cteMap (walkDelete node) ctx
  | .merge cteMap node, ctx => inCteScope cteMap (walkMerge node) ctx
  | .copy info, ctx => walkCopyInfo info ctx
  | .createNull, ctx => ctx.refuse "null CREATE info"
  | .createTable target hasQuery query columns constraints partitionKeys sortKeys
      options, ctx =>
      let ctx := ctx.onReq (addObject target)
      let ctx :=
        if !hasQuery then ctx
        else if query.isNull then ctx.refuse "null CREATE TABLE query"
        else walkQueryNode query ctx
      let ctx := columns.foldl (fun ctx column => walkColumn column ctx) ctx
      let ctx := constraints.foldl (fun ctx constraint => walkConstraint constraint ctx) ctx
      let ctx := walkExpressions sortKeys (walkExpressions partitionKeys ctx)
      walkRequired "null named expression" options ctx
  | .createView target query, ctx =>
      let ctx := ctx.onReq (addObject target)
      if query.isNull then ctx.refuse "null CREATE VIEW query" else walkQueryNode query ctx
  | .createType target query, ctx =>
      let ctx := ctx.onReq (addObject target)
      if query.isNull then ctx else walkStatement query ctx
  | .createMacro target, ctx =>
      (ctx.onReq (addObject target)).refuse "CREATE MACRO body requires catalog binding"
  | .createSchema target options, ctx =>
      let ctx := refuseUnless (target.catalog = "") "catalog-qualified CREATE SCHEMA" ctx
      let ctx :=
        if target.schema = "" then ctx.refuse "unnamed CREATE SCHEMA"
        else ctx.onReq (addNamedObject ("schema:" ++ lowerAscii target.schema))
      walkRequired "null named expression" options ctx
  | .createUnsupported, ctx => ctx.refuse "unsupported CREATE body"
  | .dropNull, ctx => ctx.refuse "null DROP info"
  | .drop isTableOrView target, ctx =>
      walkNamedTarget "unnamed DROP target" target
        (refuseUnless isTableOrView "unsupported DROP entry type" ctx)
  | .alterNull, ctx => ctx.refuse "null ALTER info"
  | .alter target kind, ctx =>
      walkAlterKind kind (walkNamedTarget "unnamed ALTER target" target ctx)
  | .pragmaNull, ctx => ctx.refuse "null PRAGMA info"
  | .pragma _ parameters namedParameters, ctx =>
      walkRequired "null named expression" namedParameters (walkExpressions parameters ctx)
  | .attachNull, ctx => ctx.refuse "null ATTACH info"
  | .attach options, ctx => walkRequired "null named expression" options ctx
  | .detachNull, ctx => ctx.refuse "null DETACH info"
  | .detach name, ctx =>
      if lowerAscii name = "" then ctx.refuse "unnamed DETACH target"
      else ctx.onReq (addNamedObject ("catalog:" ++ lowerAscii name))
  | .set name _ value, ctx =>
      if value.isNull then ctx.refuse "null SET value"
      else
        let ctx := walkExpression value ctx
        let ctx := refuseUnless value.constantText.isSome "nonconstant SET value" ctx
        refuseUnless (lowerAscii name ≠ "threads" || value.constantText = some "4")
          "threads setting must be the approved value 4" ctx
  | .reset _ _, ctx => ctx
  | .load, ctx => ctx
  | .transaction, ctx => ctx
  | .relation, ctx => ctx
  | .createFunction, ctx => ctx.refuse "CREATE FUNCTION body is not inspectable"
  | .null, ctx => ctx.refuse "unsupported statement walk"
  | .unsupported, ctx => ctx.refuse "unsupported statement walk"

/-- Inspect the statements after the first `done` of them that are not null.  The first
sets the verb of the request, and the others must agree with it. -/
def inspectFrom : Bool → List Statement → AuthzRequest → AuthzRequest
  | _, [], req => req
  | first, statement :: rest, req =>
      if statement.isNull then inspectFrom first rest (flagUnsafe "null statement" req)
      else
        let (action, ctx) := classifyStatement statement { req }
        let ctx :=
          if first then ctx.onReq fun req => { req with action }
          else refuseUnless (action = ctx.req.action) "mixed statement actions" ctx
        inspectFrom false rest (walkStatement statement ctx).req

/-- The request that parsed statements turn into. -/
def inspectStatements (statements : List Statement) : AuthzRequest :=
  inspectFrom true statements {}

/-- The request that a query turns into.  A query that does not parse is refused with
the parser's message. -/
def inspectSql
    (parseBuiltin : String → Except String (List Statement))
    (query : String) : AuthzRequest :=
  if query = "" then {}
  else
    match parseBuiltin query with
    | .error message => { isUnsafe := true, error := message }
    | .ok statements => inspectStatements statements

end Sql
end QuackOauth
