import QuackOauth.Sql.Tree

/-!
# What names stand for

How a `SELECT` reads the columns of tables: what its `FROM` clause brings into scope,
and which columns a path, a position or a join clause then stands for.  This is the
meaning that the engine gives to a query after it was inspected.  The catalog is not
part of the statement, and neither are the columns that a subquery or a table function
yields; both are given.  Aliases of the select list are not looked at.
-/

namespace QuackOauth
namespace Sql

/-- Two names are equal up to the case of their letters. -/
def sameName (first second : String) : Bool :=
  lowerAscii first = lowerAscii second

/-- A column of a table of the catalog. -/
structure BaseColumn where
  table : QualifiedName
  column : String
  deriving DecidableEq, Repr

/-- What a binder knows beyond the statement: the columns of each table, and the alias
and the columns of what is not a table. -/
structure Binder where
  columnsOf : QualifiedName → List String
  derived : Scope → TableRef → String × List String

/-- What stands in a `FROM` clause: the ways to qualify its columns, and its columns in
order, each under the name that is seen with the column of a table that it shows. -/
structure Source where
  qualifiers : List (List String)
  columns : List (String × Option BaseColumn)

namespace Source

/-- The columns of a source that are seen under a name. -/
def columnsNamed (name : String) (source : Source) : List (Option BaseColumn) :=
  (source.columns.filter fun column => sameName column.1 name).map Prod.snd

/-- A source may be meant by a qualifier. -/
def answersTo (qualifier : List String) (source : Source) : Bool :=
  source.qualifiers.any fun own => own.map lowerAscii = qualifier.map lowerAscii

/-- A table of the catalog.  The first columns may be renamed. -/
def ofTable
    (binder : Binder)
    (target : QualifiedName)
    (tableAlias : String)
    (columnAliases : List String) : Source :=
  let columns := binder.columnsOf target
  { qualifiers :=
      if tableAlias = "" then [
        [target.name], [schemaOf target, target.name],
        [target.catalog, schemaOf target, target.name]]
      else [[tableAlias]]
    columns :=
      ((columnAliases ++ columns.drop columnAliases.length).zip columns).map
        fun (seen, column) => (seen, some { table := target, column }) }

/-- Anything else; its columns are not those of a table. -/
def ofDerived (described : String × List String) : Source :=
  { qualifiers := [[described.1]]
    columns := described.2.map fun column => (column, none) }

end Source

/-- What a `FROM` clause brings into scope, from left to right. -/
def sources (binder : Binder) (scope : Scope) : TableRef → List Source
  | .null => []
  | .inert => []
  | .join left right _ _ _ => sources binder scope left ++ sources binder scope right
  | .baseTable target tableAlias columnAliases hasAtClause atExpression =>
      if boundToCte scope target then [
        .ofDerived (binder.derived scope
          (.baseTable target tableAlias columnAliases hasAtClause atExpression))]
      else [.ofTable binder target tableAlias columnAliases]
  | ref => [.ofDerived (binder.derived scope ref)]

/-! ## Resolution -/

/-- The sources of the enclosing `FROM` clauses, the innermost first. -/
abbrev Env := List (List Source)

/-- The columns of sources, in order. -/
def allColumns (level : List Source) : List (String × Option BaseColumn) :=
  level.flatMap Source.columns

/-- The columns of sources with a name, under a qualifier if there is one. -/
def columnMatches
    (level : List Source)
    (qualifier : List String)
    (column : String) : List (Option BaseColumn) :=
  (level.filter fun source => qualifier.isEmpty || source.answersTo qualifier).flatMap
    (Source.columnsNamed column)

/-- The columns that a path stands for: the longest qualifier that gives a column wins,
and what follows the column is a path inside it. -/
def pathMatches (level : List Source) (path : List String) : List (Option BaseColumn) :=
  let matchesAt (qualifierLength : Nat) : List (Option BaseColumn) :=
    match path.drop qualifierLength with
    | [] => []
    | column :: _ => columnMatches level (path.take qualifierLength) column
  (([3, 2, 1, 0].map matchesAt).find? fun found => !found.isEmpty).getD []

/-- The columns of the sources that a path names as a whole. -/
def rowMatches (level : List Source) (path : List String) : List (Option BaseColumn) :=
  (allColumns (level.filter (Source.answersTo path))).map Prod.snd

/-- The columns of tables that a path stands for.  It is a column or a whole row of the
innermost `FROM` clause that has it. -/
def resolve : Env → List String → List BaseColumn
  | [], _ => []
  | level :: outer, path =>
      let columns := pathMatches level path
      let found := if columns.isEmpty then rowMatches level path else columns
      if found.isEmpty then resolve outer path else found.reduceOption

/-- The columns of tables that a path of a column reference stands for. -/
def resolvePath (env : Env) (names : List String) : List BaseColumn :=
  if names.isEmpty then [] else resolve env names

/-- The column of a table at a position of the innermost `FROM` clause.  Positions count
from one. -/
def columnAt (env : Env) (index : Nat) : Option BaseColumn :=
  if index = 0 then none else (allColumns (env.headD []))[index - 1]?.bind Prod.snd

/-- The columns that a join compares without an expression. -/
def joinColumns
    (left right : List Source)
    (usingColumns : List String)
    (isNatural : Bool) : List BaseColumn :=
  let seenBy (level : List Source) (name : String) : Bool :=
    (allColumns level).any fun column => sameName column.1 name
  let compared (name : String) : Bool :=
    usingColumns.any (sameName name) || isNatural && seenBy left name && seenBy right name
  ((allColumns (left ++ right)).filter fun column => compared column.1).filterMap Prod.snd

/-- The columns that a `PIVOT` groups by: the given ones, or else all that it does not
turn.  All of those are columns of its source. -/
def pivotColumns (source : List Source) (groups : List String) : List BaseColumn :=
  ((allColumns source).filter fun column =>
    groups.isEmpty || groups.any (sameName column.1)).filterMap Prod.snd

/-- The columns of tables that a node reads itself. -/
def readsOf (binder : Binder) (scope : Scope) (env : Env) : Node → List BaseColumn
  | .expr (.columnRef names) => resolvePath env names
  | .expr (.star _) => (allColumns (env.headD [])).filterMap Prod.snd
  | .expr (.positionalReference index) => (columnAt env index).toList
  | .tableRef (.join left right _ usingColumns isNatural) =>
      joinColumns (sources binder scope left) (sources binder scope right) usingColumns
        isNatural
  | .tableRef (.pivot source _ _ groups) => pivotColumns (sources binder scope source) groups
  | _ => []

/-- What is in scope in a node below another.  The right side of a join also sees the
left side, and the clauses of a `SELECT` see its `FROM` clause. -/
def EnvBelow (binder : Binder) (scope : Scope) (env : Env) : Node → Node → Env → Prop
  | .queryBody (.select _ _ _ _ _ _), .tableRef _, below => below = env
  | .queryBody (.select fromTable _ _ _ _ _), _, below =>
      below = sources binder scope fromTable :: env
  | .queryNode (.node cteMap _ (.select fromTable _ _ _ _ _)), .modifier _, below =>
      below = sources binder (bindCtes cteMap scope) fromTable :: env
  | .tableRef (.join left right _ _ _), .tableRef ref, below =>
      ref = left ∧ below = env ∨
        ref = right ∧ below = sources binder scope left :: env
  | .tableRef (.join left right _ _ _), _, below =>
      below = (sources binder scope left ++ sources binder scope right) :: env
  | .tableRef (.pivot _ _ _ _), .tableRef _, below => below = env
  | .tableRef (.pivot source _ _ _), _, below =>
      below = sources binder scope source :: env
  | _, _, below => below = env

end Sql
end QuackOauth
