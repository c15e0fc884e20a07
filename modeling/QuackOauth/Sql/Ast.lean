import Mathlib.Data.List.Basic

/-!
# Parsed SQL

The syntax trees of the built-in parser, with the fields that inspection reads.  A
pointer that may be null is a tree with a null constructor.  A missing info block
whose fields are all walked only if they are there (`ON CONFLICT`, a limit) is one
with null fields.
-/

namespace QuackOauth
namespace Sql

/-- A name of the catalog; parts that are not given are empty. -/
structure QualifiedName where
  catalog : String := ""
  schema : String := ""
  name : String := ""
  deriving DecidableEq, Repr

/-- What a `MERGE` does to a row. -/
inductive MergeActionType
  | mergeUpdate
  | mergeDelete
  | mergeInsert
  | mergeDoNothing
  | mergeError
  deriving DecidableEq, Repr

mutual

/-- An expression.  The children are those that the parser's own iterator yields,
which does not descend into the query of a subquery. -/
inductive Expr
  | null
  /-- The path of a column reference, the column last. -/
  | columnRef (names : List String)
  | star (children : List Expr)
  | subquery
      (query : QueryNode)
      (children : List Expr)
  | function
      (name : String)
      (children : List Expr)
  | positionalReference (index : Nat)
  /-- A constant as it is printed. -/
  | constant (text : String)
  | other (children : List Expr)

/-- What can stand in a `FROM` clause. -/
inductive TableRef
  | null
  | baseTable
      (target : QualifiedName)
      (tableAlias : String)
      (columnAliases : List String)
      (hasAtClause : Bool)
      (atExpression : Expr)
  | join
      (left right : TableRef)
      (condition : Expr)
      (usingColumns : List String)
      (isNatural : Bool)
  | subquery (query : QueryNode)
  | tableFunction
      (function : Expr)
      (hasSubquery : Bool)
      (subquery : QueryNode)
  | pivot
      (source : TableRef)
      (aggregates : List Expr)
      (pivots : List PivotColumn)
      (groups : List String)
  /-- The rows of a `VALUES` list, one after the other. -/
  | expressionList (values : List Expr)
  /-- Without a query, a named target. -/
  | showRef
      (query : QueryNode)
      (target : QualifiedName)
  /-- Nothing to gate: an empty `FROM`, or what only binding produces. -/
  | inert
  | unsupported

/-- One `ON` clause of a `PIVOT`. -/
inductive PivotColumn
  | mk
      (pivotExpressions : List Expr)
      (subquery : QueryNode)
      (entries : List Expr)

/-- A query: its `WITH` list, its modifiers and its body. -/
inductive QueryNode
  | null
  | node
      (cteMap : List Cte)
      (modifiers : List Modifier)
      (body : QueryBody)

/-- The body of a query. -/
inductive QueryBody
  | select
      (fromTable : TableRef)
      (selectList : List Expr)
      (whereClause having qualify : Expr)
      (groups : List Expr)
  | setOperation (children : List QueryNode)
  | cte
      (cteName : String)
      (query child : QueryNode)
  | recursiveCte
      (cteName : String)
      (left right : QueryNode)
  | boundSubquery
  | update (node : UpdateNode)
  | delete (node : DeleteNode)
  | insert (node : InsertNode)
  | merge (node : MergeNode)
  | copy (info : CopyInfo)
  | unsupported

/-- An entry of a `WITH` list. -/
inductive Cte
  | nullDefinition (cteName : String)
  | definition
      (cteName : String)
      (query : QueryNode)

/-- A clause after the body of a query. -/
inductive Modifier
  | null
  | order (expressions : List Expr)
  | limit (limit offset : Expr)
  | distinct (targets : List Expr)
  /-- The modifier that older parsers produce. -/
  | limitPercent (limit offset : Expr)
  | unsupported

/-- A `SET` clause. -/
inductive SetInfo
  | null
  | info
      (expressions : List Expr)
      (condition : Expr)

inductive InsertNode
  | mk
      (target : QualifiedName)
      (select : QueryNode)
      (tableRef : TableRef)
      (returning : List Expr)
      (conflictSet : SetInfo)
      (conflictCondition : Expr)

inductive UpdateNode
  | mk
      (table fromTable : TableRef)
      (setInfo : SetInfo)
      (returning : List Expr)

inductive DeleteNode
  | mk
      (table : TableRef)
      (usingClauses : List TableRef)
      (condition : Expr)
      (returning : List Expr)

inductive MergeNode
  | mk
      (target source : TableRef)
      (joinCondition : Expr)
      (actions : List MergeAction)
      (returning : List Expr)

/-- A `WHEN` clause of a `MERGE`. -/
inductive MergeAction
  | null
  | action
      (actionType : MergeActionType)
      (condition : Expr)
      (updateInfo : SetInfo)
      (expressions : List Expr)

/-- What a `COPY` copies.  Without a query the target is a table. -/
inductive CopyInfo
  | null
  | info
      (target : QualifiedName)
      (isFrom : Bool)
      (select : QueryNode)
      (filePath : Expr)
      (options : List Expr)

end

/-! ## Statements -/

/-- A column with the expression it is computed from, if any. -/
inductive ColumnDefinition
  | plain
  | generated (expression : Expr)
  | withDefault (expression : Expr)

/-- A constraint of a table. -/
inductive Constraint
  | null
  | check (expression : Expr)
  | notNull
  | unique
  | foreignKey
  | unknown

/-- What an `ALTER` changes. -/
inductive AlterKind
  /-- Anything but a table. -/
  | notTable
  | renameColumn
  | renameTable
  | removeColumn
  | setNotNull
  | dropNotNull
  | alterColumnType (expression : Expr)
  | setDefault (expression : Expr)
  | addColumn (column : ColumnDefinition)
  | unsupported

/-- A statement. -/
inductive Statement
  | null
  | select (node : QueryNode)
  | explain
      (isAnalyze : Bool)
      (statement : Statement)
  | insert
      (cteMap : List Cte)
      (node : InsertNode)
  | update
      (cteMap : List Cte)
      (node : UpdateNode)
  | delete
      (cteMap : List Cte)
      (node : DeleteNode)
  | merge
      (cteMap : List Cte)
      (node : MergeNode)
  | copy (info : CopyInfo)
  | createNull
  | createTable
      (target : QualifiedName)
      (hasQuery : Bool)
      (query : QueryNode)
      (columns : List ColumnDefinition)
      (constraints : List Constraint)
      (partitionKeys sortKeys options : List Expr)
  | createView
      (target : QualifiedName)
      (query : QueryNode)
  | createType
      (target : QualifiedName)
      (query : Statement)
  | createMacro (target : QualifiedName)
  | createSchema
      (target : QualifiedName)
      (options : List Expr)
  | createUnsupported
  | createFunction
  | dropNull
  | drop
      (isTableOrView : Bool)
      (target : QualifiedName)
  | alterNull
  | alter
      (target : QualifiedName)
      (kind : AlterKind)
  | transaction
  | detachNull
  | detach (name : String)
  | attachNull
  | attach (options : List Expr)
  | pragmaNull
  | pragma
      (name : String)
      (parameters namedParameters : List Expr)
  | set
      (name : String)
      (isGlobal : Bool)
      (value : Expr)
  | reset
      (name : String)
      (isGlobal : Bool)
  | load
  | relation
  | unsupported

/-! ## Null pointers and classes -/

def Expr.isNull : Expr → Bool
  | .null => true
  | _ => false

def QueryNode.isNull : QueryNode → Bool
  | .null => true
  | _ => false

def Statement.isNull : Statement → Bool
  | .null => true
  | _ => false

/-- The name of a function; empty for any other expression. -/
def Expr.functionName : Expr → String
  | .function name _ => name
  | _ => ""

/-- A constant as it is printed; none for any other expression. -/
def Expr.constantText : Expr → Option String
  | .constant text => some text
  | _ => none

end Sql
end QuackOauth
