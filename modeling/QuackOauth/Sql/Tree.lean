import QuackOauth.Lib.Unfolding
import QuackOauth.Sql.Walk

/-!
# Nodes, their parts and their scopes

The lexical reading of a syntax tree.  A node consists of parts: what it contributes
itself, and the nodes below it, each with the `WITH` aliases that are in scope there.
Scopes are passed down and never changed, so nothing can leak out of a node.  An entry
of a `WITH` list sees the entries before it, and the recursive arm of a query also
sees the query itself.
-/

namespace QuackOauth
namespace Sql

open Policy

/-- A data-modifying node inside a query. -/
inductive WriteKind
  | update
  | delete
  | insert
  | merge (onlyUpdates : Bool)
  | copy
  deriving DecidableEq, Repr

/-- What a node contributes to the request. -/
inductive Event
  | refuse (message : String)
  | unnamedTableFunction
  | object (target : QualifiedName)
  | namedObject (object : String)
  | function (name : String)
  | column (names : List String)
  | star
  | write (kind : WriteKind)
  deriving DecidableEq, Repr

/-- A node of any kind. -/
inductive Node
  | expr (expr : Expr)
  | tableRef (ref : TableRef)
  | pivot (pivot : PivotColumn)
  | queryNode (node : QueryNode)
  | queryBody (body : QueryBody)
  | cte (cte : Cte)
  | modifier (modifier : Modifier)
  | setInfo (info : SetInfo)
  | insert (node : InsertNode)
  | update (node : UpdateNode)
  | delete (node : DeleteNode)
  | merge (node : MergeNode)
  | mergeAction (action : MergeAction)
  | copyInfo (info : CopyInfo)
  | column (column : ColumnDefinition)
  | constraint (constraint : Constraint)
  | alterKind (kind : AlterKind)
  | statement (statement : Statement)

/-- The aliases in scope, the latest last. -/
abbrev Scope := List String

/-- A part of a node: an event, or a node below it in its scope. -/
abbrev Part := Lib.Part Event (Scope × Node)

/-! ## Parts -/

/-- Bring an alias into scope, if there is one. -/
def bindAlias (cteName : String) (scope : Scope) : Scope :=
  if cteName = "" then scope else scope ++ [cteName]

/-- The alias of an entry of a `WITH` list. -/
def Cte.alias' : Cte → String
  | .nullDefinition cteName => lowerAscii cteName
  | .definition cteName _ => lowerAscii cteName

/-- The aliases that a `WITH` list brings into scope. -/
def bindCtes (cteMap : List Cte) (scope : Scope) : Scope :=
  scope ++ cteMap.map Cte.alias'

/-- The entries of a `WITH` list, each in the scope of the entries before it. -/
def cteParts (scope : Scope) : List Cte → List Part
  | [] => []
  | cte :: rest => .visit (scope, .cte cte) :: cteParts (scope ++ [cte.alias']) rest

def exprParts (scope : Scope) (expressions : List Expr) : List Part :=
  expressions.map fun expr => .visit (scope, .expr expr)

/-- Expressions none of which may be null. -/
def requiredParts (message : String) (scope : Scope) (expressions : List Expr) : List Part :=
  expressions.map fun expr =>
    if expr.isNull then .emit (.refuse message) else .visit (scope, .expr expr)

/-- An expression that may not be null. -/
def requiredExpr (message : String) (scope : Scope) (expr : Expr) : List Part :=
  requiredParts message scope [expr]

/-- A query that may not be null. -/
def requiredQuery (message : String) (scope : Scope) (query : QueryNode) : List Part :=
  if query.isNull then [.emit (.refuse message)] else [.visit (scope, .queryNode query)]

/-- A reason to refuse, unless a condition holds. -/
def unlessPart (condition : Bool) (message : String) : List Part :=
  if condition then [] else [.emit (.refuse message)]

/-- Whether a bare name is that of an alias in scope. -/
def boundToCte (scope : Scope) (target : QualifiedName) : Bool :=
  target.catalog = "" && target.schema = "" && decide (lowerAscii target.name ∈ scope)

/-- What a table in a `FROM` clause contributes. -/
def baseTableEvents (scope : Scope) (target : QualifiedName) : List Event :=
  if boundToCte scope target then []
  else if isReplacementScanName target then [.refuse "path-like replacement scan"]
  else [.object target]

/-- What the target of a `SHOW` contributes. -/
def showTargetEvents (scope : Scope) (target : QualifiedName) : List Event :=
  let name := target.name
  if name = "\"variables\"" then [.refuse "SHOW VARIABLES exposes session variables"]
  else if name = "\"databases\"" ∨ name = "\"schemas\"" ∨ name = "\"tables\"" ∨
      name = "__show_tables_expanded" then []
  else if name = "" then [.refuse "SHOW without inspectable target"]
  else if isReplacementScanName target then [.refuse "path-like SHOW target"]
  else if boundToCte scope target then []
  else [.object target]

/-- What a table function contributes. -/
def functionNameEvents (name : String) : List Event :=
  if name = "" then [.unnamedTableFunction]
  else
    .function name ::
      if lowerAscii name = "query" ∨ lowerAscii name = "query_table" then
        [.refuse "dynamic SQL table function"]
      else []

/-- What a target that must have a name contributes. -/
def namedTargetEvents (message : String) (target : QualifiedName) : List Event :=
  if target.name = "" then [.refuse message] else [.object target]

/-- What the verb of a statement gives reason to refuse. -/
def classifyEvents : Statement → List Event
  | .merge _ node =>
      if mergeOnlyUpdates node then [] else [.refuse "MERGE has non-UPDATE action"]
  | .createFunction => [.refuse "CREATE FUNCTION body is not inspectable"]
  | .pragmaNull => [.refuse "null PRAGMA info"]
  | .pragma name _ _ =>
      let name := lowerAscii name
      if name = "quack_serve" ∨ name = "quack_stop" ∨ name = "quack_restart" then []
      else
        (if hasStart name "quack_oauth_" then
          [.refuse "quack_oauth PRAGMA is not inspectable"] else []) ++
          if allowedPragma name then [] else [.refuse "PRAGMA is not allowlisted"]
  | .set name isGlobal _ => settingEvents name isGlobal
  | .reset name isGlobal =>
      settingEvents name isGlobal ++ [.refuse "RESET changes shared state"]
  | .load => [.refuse "extension LOAD or INSTALL"]
  | .null => [.refuse "unsupported statement type"]
  | .unsupported => [.refuse "unsupported statement type"]
  | _ => []
where
  settingEvents (name : String) (isGlobal : Bool) : List Event :=
    let name := lowerAscii name
    (if !hasStart name "quack_oauth_" && allowedSetting name then []
      else [.refuse "SET/RESET is not allowlisted"]) ++
      if isGlobal then [.refuse "GLOBAL SET/RESET changes shared state"] else []

/-- The parts of a node in a scope, in the order of the walk. -/
@[simp] def parts (scope : Scope) : Node → List Part
  | .expr .null => []
  | .expr (.columnRef names) => [.emit (.column names)]
  | .expr (.star children) => .emit .star :: exprParts scope children
  | .expr (.subquery query children) =>
      requiredQuery "null expression subquery" scope query ++ exprParts scope children
  | .expr (.function name children) =>
      unlessPart (!touchesState (lowerAscii name))
        "state-reading or mutating scalar function" ++ exprParts scope children
  | .expr (.positionalReference _) => []
  | .expr (.constant _) => []
  | .expr (.other children) => exprParts scope children
  | .tableRef .null => []
  | .tableRef (.baseTable target _ _ hasAtClause atExpression) =>
      (if hasAtClause then requiredExpr "null AT clause expression" scope atExpression
        else []) ++ (baseTableEvents scope target).map .emit
  | .tableRef (.join left right condition _ _) => [
      .visit (scope, .tableRef left), .visit (scope, .tableRef right),
      .visit (scope, .expr condition)]
  | .tableRef (.subquery query) => requiredQuery "null subquery ref" scope query
  | .tableRef (.tableFunction function hasSubquery subquery) =>
      (functionNameEvents function.functionName).map .emit ++
        .visit (scope, .expr function) ::
        if hasSubquery then requiredQuery "null table-function subquery" scope subquery
        else []
  | .tableRef (.pivot source aggregates pivots _) =>
      .visit (scope, .tableRef source) :: exprParts scope aggregates ++
        pivots.map fun pivot => .visit (scope, .pivot pivot)
  | .tableRef (.expressionList values) => exprParts scope values
  | .tableRef (.showRef query target) =>
      if query.isNull then (showTargetEvents scope target).map .emit
      else [.visit (scope, .queryNode query)]
  | .tableRef .inert => []
  | .tableRef .unsupported => [.emit (.refuse "unsupported table reference")]
  | .pivot (.mk pivotExpressions subquery entries) =>
      exprParts scope pivotExpressions ++
        .visit (scope, .queryNode subquery) :: exprParts scope entries
  | .queryNode .null => []
  | .queryNode (.node cteMap modifiers body) =>
      cteParts scope cteMap ++
        (modifiers.map fun modifier =>
          .visit (bindCtes cteMap scope, .modifier modifier)) ++
        [.visit (bindCtes cteMap scope, .queryBody body)]
  | .queryBody (.select fromTable selectList whereClause having qualify groups) =>
      .visit (scope, .tableRef fromTable) :: exprParts scope selectList ++
        exprParts scope [whereClause, having, qualify] ++ exprParts scope groups
  | .queryBody (.setOperation children) =>
      children.map fun child => .visit (scope, .queryNode child)
  | .queryBody (.cte cteName query child) =>
      requiredQuery "null CTE body" scope query ++
        requiredQuery "null CTE child" (bindAlias (lowerAscii cteName) scope) child
  | .queryBody (.recursiveCte cteName left right) =>
      requiredQuery "null recursive CTE seed" scope left ++
        requiredQuery "null recursive CTE arm" (bindAlias (lowerAscii cteName) scope) right
  | .queryBody .boundSubquery => []
  | .queryBody (.update node) =>
      [.emit (.write .update), .visit (scope, .update node)]
  | .queryBody (.delete node) =>
      [.emit (.write .delete), .visit (scope, .delete node)]
  | .queryBody (.insert node) =>
      [.emit (.write .insert), .visit (scope, .insert node)]
  | .queryBody (.merge node) =>
      [.emit (.write (.merge (mergeOnlyUpdates node))), .visit (scope, .merge node)]
  | .queryBody (.copy info) =>
      [.emit (.write .copy), .visit (scope, .copyInfo info)]
  | .queryBody .unsupported => [.emit (.refuse "unsupported query node")]
  | .cte (.nullDefinition _) => [.emit (.refuse "null CTE definition")]
  | .cte (.definition _ query) => requiredQuery "null CTE query" scope query
  | .modifier .null => [.emit (.refuse "null query modifier")]
  | .modifier (.order expressions) =>
      requiredParts "null ORDER BY expression" scope expressions
  | .modifier (.limit limit offset) => exprParts scope [limit, offset]
  | .modifier (.distinct targets) => exprParts scope targets
  | .modifier (.limitPercent limit offset) => exprParts scope [limit, offset]
  | .modifier .unsupported => [.emit (.refuse "unsupported query modifier")]
  | .setInfo .null => []
  | .setInfo (.info expressions condition) =>
      exprParts scope expressions ++ exprParts scope [condition]
  | .insert (.mk target select tableRef returning conflictSet conflictCondition) =>
      .emit (.object target) :: .visit (scope, .queryNode select) ::
        .visit (scope, .tableRef tableRef) :: exprParts scope returning ++
        [.visit (scope, .setInfo conflictSet), .visit (scope, .expr conflictCondition)]
  | .update (.mk table fromTable setInfo returning) =>
      .visit (scope, .tableRef table) :: .visit (scope, .tableRef fromTable) ::
        .visit (scope, .setInfo setInfo) :: exprParts scope returning
  | .delete (.mk table usingClauses condition returning) =>
      .visit (scope, .tableRef table) ::
        (usingClauses.map fun ref => .visit (scope, .tableRef ref)) ++
        .visit (scope, .expr condition) :: exprParts scope returning
  | .merge (.mk target source joinCondition actions returning) =>
      .visit (scope, .tableRef target) :: .visit (scope, .tableRef source) ::
        .visit (scope, .expr joinCondition) ::
        (actions.map fun action => .visit (scope, .mergeAction action)) ++
        exprParts scope returning
  | .mergeAction .null => [.emit (.refuse "null MERGE action")]
  | .mergeAction (.action _ condition updateInfo expressions) =>
      .visit (scope, .expr condition) :: .visit (scope, .setInfo updateInfo) ::
        exprParts scope expressions
  | .copyInfo .null => [.emit (.refuse "null COPY info")]
  | .copyInfo (.info target _ select filePath options) =>
      .emit (.object target) :: .visit (scope, .queryNode select) ::
        .visit (scope, .expr filePath) ::
        requiredParts "null named expression" scope options
  | .column .plain => []
  | .column (.generated expression) => exprParts scope [expression]
  | .column (.withDefault expression) => exprParts scope [expression]
  | .constraint .null => [.emit (.refuse "null CREATE TABLE constraint")]
  | .constraint (.check expression) =>
      requiredExpr "null CHECK expression" scope expression
  | .constraint .notNull => []
  | .constraint .unique => []
  | .constraint .foreignKey => []
  | .constraint .unknown => [.emit (.refuse "unknown CREATE TABLE constraint")]
  | .alterKind .notTable => [.emit (.refuse "unsupported ALTER kind")]
  | .alterKind .renameColumn => []
  | .alterKind .renameTable => []
  | .alterKind .removeColumn => []
  | .alterKind .setNotNull => []
  | .alterKind .dropNotNull => []
  | .alterKind (.alterColumnType expression) =>
      requiredExpr "null ALTER TYPE expression" scope expression
  | .alterKind (.setDefault expression) => exprParts scope [expression]
  | .alterKind (.addColumn column) => [.visit (scope, .column column)]
  | .alterKind .unsupported => [.emit (.refuse "unsupported ALTER subtype")]
  | .statement (.select node) => [.visit (scope, .queryNode node)]
  | .statement (.explain isAnalyze statement) =>
      if statement.isNull then [.emit (.refuse "null EXPLAIN statement")]
      else
        unlessPart (!isAnalyze) "EXPLAIN ANALYZE may execute SQL" ++
          (classifyEvents statement).map .emit ++ [.visit (scope, .statement statement)]
  | .statement (.insert cteMap node) =>
      cteParts scope cteMap ++ [.visit (bindCtes cteMap scope, .insert node)]
  | .statement (.update cteMap node) =>
      cteParts scope cteMap ++ [.visit (bindCtes cteMap scope, .update node)]
  | .statement (.delete cteMap node) =>
      cteParts scope cteMap ++ [.visit (bindCtes cteMap scope, .delete node)]
  | .statement (.merge cteMap node) =>
      cteParts scope cteMap ++ [.visit (bindCtes cteMap scope, .merge node)]
  | .statement (.copy info) => [.visit (scope, .copyInfo info)]
  | .statement .createNull => [.emit (.refuse "null CREATE info")]
  | .statement (.createTable target hasQuery query columns constraints partitionKeys
      sortKeys options) =>
      .emit (.object target) ::
        (if hasQuery then requiredQuery "null CREATE TABLE query" scope query else []) ++
        (columns.map fun column => .visit (scope, .column column)) ++
        (constraints.map fun constraint => .visit (scope, .constraint constraint)) ++
        exprParts scope partitionKeys ++ exprParts scope sortKeys ++
        requiredParts "null named expression" scope options
  | .statement (.createView target query) =>
      .emit (.object target) :: requiredQuery "null CREATE VIEW query" scope query
  | .statement (.createType target query) =>
      .emit (.object target) ::
        if query.isNull then [] else [.visit (scope, .statement query)]
  | .statement (.createMacro target) => [
      .emit (.object target), .emit (.refuse "CREATE MACRO body requires catalog binding")]
  | .statement (.createSchema target options) =>
      unlessPart (target.catalog = "") "catalog-qualified CREATE SCHEMA" ++
        .emit (if target.schema = "" then .refuse "unnamed CREATE SCHEMA"
          else .namedObject ("schema:" ++ lowerAscii target.schema)) ::
        requiredParts "null named expression" scope options
  | .statement .createUnsupported => [.emit (.refuse "unsupported CREATE body")]
  | .statement .dropNull => [.emit (.refuse "null DROP info")]
  | .statement (.drop isTableOrView target) =>
      unlessPart isTableOrView "unsupported DROP entry type" ++
        (namedTargetEvents "unnamed DROP target" target).map .emit
  | .statement .alterNull => [.emit (.refuse "null ALTER info")]
  | .statement (.alter target kind) =>
      (namedTargetEvents "unnamed ALTER target" target).map .emit ++
        [.visit (scope, .alterKind kind)]
  | .statement .pragmaNull => [.emit (.refuse "null PRAGMA info")]
  | .statement (.pragma _ parameters namedParameters) =>
      exprParts scope parameters ++
        requiredParts "null named expression" scope namedParameters
  | .statement .attachNull => [.emit (.refuse "null ATTACH info")]
  | .statement (.attach options) => requiredParts "null named expression" scope options
  | .statement .detachNull => [.emit (.refuse "null DETACH info")]
  | .statement (.detach name) => [
      .emit (if lowerAscii name = "" then .refuse "unnamed DETACH target"
        else .namedObject ("catalog:" ++ lowerAscii name))]
  | .statement (.set name _ value) =>
      if value.isNull then [.emit (.refuse "null SET value")]
      else
        .visit (scope, .expr value) ::
          unlessPart value.constantText.isSome "nonconstant SET value" ++
          unlessPart (lowerAscii name ≠ "threads" || value.constantText = some "4")
            "threads setting must be the approved value 4"
  | .statement (.reset _ _) => []
  | .statement .load => []
  | .statement .transaction => []
  | .statement .relation => []
  | .statement .createFunction =>
      [.emit (.refuse "CREATE FUNCTION body is not inspectable")]
  | .statement .null => [.emit (.refuse "unsupported statement walk")]
  | .statement .unsupported => [.emit (.refuse "unsupported statement walk")]

end Sql
end QuackOauth
