import QuackOauth.Sql.Binding
import QuackOauth.Sql.Inspect

/-!
# Column coverage

Inspection surfaces the last part of every column path, and a star.  A column that a
`SELECT` reads is therefore surfaced where the query spells it; where it is read in
another way (by `USING` or `NATURAL`, by position, through a whole row, inside a path,
under another name, by a `PIVOT`) it is surfaced only if something else spells it.
-/

namespace QuackOauth
namespace Sql

open Policy

/-! ## Reading -/

/-- A node with what is in scope in it. -/
structure Frame where
  scope : Scope
  env : Env
  node : Node

/-- A node stands directly below another, with what is in scope there. -/
def FrameBelow (binder : Binder) (parent child : Frame) : Prop :=
  .visit (child.scope, child.node) ∈ parts parent.scope parent.node ∧
    EnvBelow binder parent.scope parent.env parent.node child.node child.env

/-- A node occurs in one of the `SELECT` statements, with what is in scope there. -/
def FrameIn (binder : Binder) (statements : List Statement) (frame : Frame) : Prop :=
  ∃ query, .select query ∈ statements ∧
    Relation.ReflTransGen (FrameBelow binder) ⟨[], [], .statement (.select query)⟩ frame

/-- A `SELECT` reads a column of a table. -/
def Reads (binder : Binder) (statements : List Statement) (column : BaseColumn) : Prop :=
  ∃ frame, FrameIn binder statements frame ∧
    column ∈ readsOf binder frame.scope frame.env frame.node

/-- The last part of a path as it is surfaced. -/
def spelling (names : List String) : Option String :=
  names.getLast?.bind columnOf

/-- A `SELECT` reads a column of a table where it does not spell it. -/
inductive HiddenRead
    (binder : Binder)
    (statements : List Statement)
    (column : BaseColumn) : Prop
  /-- By `USING` or `NATURAL`. -/
  | joined
      {scope : Scope}
      {env : Env}
      {left right : TableRef}
      {condition : Expr}
      {usingColumns : List String}
      {isNatural : Bool}
      (frameIn : FrameIn binder statements
        ⟨scope, env, .tableRef (.join left right condition usingColumns isNatural)⟩)
      (compared : column ∈ joinColumns (sources binder scope left)
        (sources binder scope right) usingColumns isNatural)
  /-- By the columns that a `PIVOT` groups by. -/
  | pivoted
      {scope : Scope}
      {env : Env}
      {source : TableRef}
      {aggregates : List Expr}
      {pivots : List PivotColumn}
      {groups : List String}
      (frameIn : FrameIn binder statements
        ⟨scope, env, .tableRef (.pivot source aggregates pivots groups)⟩)
      (grouped : column ∈ pivotColumns (sources binder scope source) groups)
  /-- By position. -/
  | positioned
      {scope : Scope}
      {env : Env}
      {index : Nat}
      (frameIn : FrameIn binder statements
        ⟨scope, env, .expr (.positionalReference index)⟩)
      (stands : columnAt env index = some column)
  /-- By a path that does not end in the name of the column: to a whole row, to a field
  inside the column, or to the column under another name. -/
  | unlike
      {scope : Scope}
      {env : Env}
      {names : List String}
      (frameIn : FrameIn binder statements ⟨scope, env, .expr (.columnRef names)⟩)
      (meant : column ∈ resolvePath env names)
      (differs : spelling names ≠ some (lowerAscii column.column))

/-- Some path in the statements ends in a name. -/
def Spelled (statements : List Statement) (name : String) : Prop :=
  ∃ scope names, OccursIn statements scope (.expr (.columnRef names)) ∧
    spelling names = some name

/-- A star stands in the statements, or a column that is called so. -/
def Starred (statements : List Statement) : Prop :=
  Spelled statements "*" ∨
    ∃ scope children, OccursIn statements scope (.expr (.star children))

/-- Every column of a table that a `SELECT` reads is among the columns of the request,
or these contain a star. -/
def ColumnsCovered (binder : Binder) (statements : List Statement) : Prop :=
  ∀ column, Reads binder statements column →
    lowerAscii column.column ∈ (inspectStatements statements).columns ∨
      "*" ∈ (inspectStatements statements).columns

/-- Every column that is read where it is not spelled is spelled elsewhere, or a star
stands in the statements. -/
def HiddenReadsSpelled (binder : Binder) (statements : List Statement) : Prop :=
  ∀ column, HiddenRead binder statements column →
    Spelled statements (lowerAscii column.column) ∨ Starred statements

section Columns

variable {binder : Binder} {statements : List Statement}

theorem frameIn_root
    {query : QueryNode}
    (member : .select query ∈ statements) :
    FrameIn binder statements ⟨[], [], .statement (.select query)⟩ :=
  ⟨query, member, .refl⟩

theorem FrameIn.below
    {parent child : Frame}
    (frameIn : FrameIn binder statements parent)
    (below : FrameBelow binder parent child) :
    FrameIn binder statements child := by
  obtain ⟨query, member, path⟩ := frameIn
  exact ⟨query, member, path.tail below⟩

/-- What is in scope does not change where a node occurs. -/
theorem FrameIn.occursIn {frame : Frame} (frameIn : FrameIn binder statements frame) :
    OccursIn statements frame.scope frame.node := by
  obtain ⟨query, member, path⟩ := frameIn
  induction path with
  | refl => exact occursIn_of_mem member
  | tail _ below inductionHypothesis => exact inductionHypothesis.below below.1

/-! ## What is surfaced -/

theorem emits_column_iff {names : List String} :
    Emits statements (.column names) ↔
      ∃ scope, OccursIn statements scope (.expr (.columnRef names)) := by
  constructor
  · rintro ⟨scope, node, occurs, emitted⟩
    cases contributes_of_emit_mem_parts emitted
    exact ⟨scope, occurs⟩
  · rintro ⟨scope, occurs⟩
    exact ⟨scope, _, occurs, List.mem_singleton_self _⟩

theorem emits_star_iff :
    Emits statements .star ↔
      ∃ scope children, OccursIn statements scope (.expr (.star children)) := by
  constructor
  · rintro ⟨scope, node, occurs, emitted⟩
    cases contributes_of_emit_mem_parts emitted
    exact ⟨scope, _, occurs⟩
  · rintro ⟨scope, children, occurs⟩
    exact ⟨scope, _, occurs, List.mem_cons_self⟩

/-- A name is among the columns if a path spells it, or if it is a star and one
stands in the statements. -/
theorem mem_columns_iff_spelled {name : String} :
    name ∈ (inspectStatements statements).columns ↔
      Spelled statements name ∨ name = "*" ∧ Starred statements := by
  rw [mem_columns_iff]
  constructor
  · rintro ⟨event, emits, surfaced⟩
    cases event with
    | column names =>
        obtain ⟨scope, occurs⟩ := emits_column_iff.mp emits
        exact .inl ⟨scope, names, occurs, surfaced⟩
    | star =>
        obtain rfl := Option.some.inj surfaced
        exact .inr ⟨rfl, .inr (emits_star_iff.mp emits)⟩
    | _ => cases surfaced
  · rintro (⟨scope, names, occurs, spelled⟩ | ⟨rfl, ⟨scope, names, occurs, spelled⟩ | star⟩)
    · exact ⟨.column names, emits_column_iff.mpr ⟨scope, occurs⟩, spelled⟩
    · exact ⟨.column names, emits_column_iff.mpr ⟨scope, occurs⟩, spelled⟩
    · exact ⟨.star, emits_star_iff.mpr star, rfl⟩

theorem starred_iff_mem_columns :
    Starred statements ↔ "*" ∈ (inspectStatements statements).columns := by
  rw [mem_columns_iff_spelled]
  constructor
  · intro starred
    exact .inr ⟨rfl, starred⟩
  · rintro (spelled | ⟨-, starred⟩)
    · exact .inl spelled
    · exact starred

/-- A column is covered if a path spells it or a star stands in the statements. -/
theorem covered_iff {column : BaseColumn} :
    (lowerAscii column.column ∈ (inspectStatements statements).columns ∨
      "*" ∈ (inspectStatements statements).columns) ↔
      Spelled statements (lowerAscii column.column) ∨ Starred statements := by
  rw [← starred_iff_mem_columns, mem_columns_iff_spelled]
  tauto

theorem HiddenRead.reads
    {column : BaseColumn}
    (hidden : HiddenRead binder statements column) :
    Reads binder statements column := by
  cases hidden with
  | joined frameIn compared => exact ⟨_, frameIn, compared⟩
  | pivoted frameIn grouped => exact ⟨_, frameIn, grouped⟩
  | positioned frameIn stands => exact ⟨_, frameIn, Option.mem_toList.mpr stands⟩
  | unlike frameIn meant differs => exact ⟨_, frameIn, meant⟩

/-- A column is read where it is spelled, by a star, or where it is hidden. -/
theorem Reads.spelled_or_starred_or_hidden
    {column : BaseColumn}
    (reads : Reads binder statements column) :
    (Spelled statements (lowerAscii column.column) ∨ Starred statements) ∨
      HiddenRead binder statements column := by
  obtain ⟨⟨scope, env, node⟩, frameIn, member⟩ := reads
  cases node with
  | expr expr =>
      cases expr with
      | columnRef names =>
          by_cases spelled : spelling names = some (lowerAscii column.column)
          · exact .inl (.inl ⟨scope, names, frameIn.occursIn, spelled⟩)
          · exact .inr (.unlike frameIn member spelled)
      | star children => exact .inl (.inr (.inr ⟨scope, children, frameIn.occursIn⟩))
      | positionalReference index =>
          exact .inr (.positioned frameIn (Option.mem_toList.mp member))
      | _ => cases member
  | tableRef ref =>
      cases ref with
      | join left right condition usingColumns isNatural =>
          exact .inr (.joined frameIn member)
      | pivot source aggregates pivots groups => exact .inr (.pivoted frameIn member)
      | _ => cases member
  | _ => cases member

/-- The columns that `SELECT` statements read are covered exactly if those that are read
where they are not spelled are spelled elsewhere. -/
theorem columnsCovered_iff :
    ColumnsCovered binder statements ↔ HiddenReadsSpelled binder statements := by
  constructor
  · intro covered column hidden
    exact covered_iff.mp (covered column hidden.reads)
  · intro spelled column reads
    apply covered_iff.mpr
    rcases reads.spelled_or_starred_or_hidden with shown | hidden
    · exact shown
    · exact spelled column hidden

end Columns

/-- Every table has the columns `id` and `ssn`. -/
def sampleBinder : Binder where
  columnsOf _ := ["id", "ssn"]
  derived _ _ := ("", [])

/-- `users AS u`. -/
def renamedUsers : TableRef :=
  .baseTable { name := "users" } "u" [] false .null

/-- `SELECT u FROM users AS u`. -/
def selectsRow : QueryNode :=
  .node [] [] (.select renamedUsers [.columnRef ["u"]] .null .null .null [])

/-- The whole row has `ssn` in it, and the request only has a column `u`. -/
theorem whole_row_hidden :
    (inspectStatements [.select selectsRow]).isUnsafe = false ∧
      ¬ColumnsCovered sampleBinder [.select selectsRow] := by
  refine ⟨by decide, ?_⟩
  intro covered
  have atStatement : FrameIn sampleBinder [.select selectsRow]
      ⟨[], [], .statement (.select selectsRow)⟩ :=
    frameIn_root List.mem_cons_self
  have atQuery : FrameIn sampleBinder [.select selectsRow] ⟨[], [], .queryNode selectsRow⟩ :=
    atStatement.below ⟨List.mem_cons_self, rfl⟩
  have atBody : FrameIn sampleBinder [.select selectsRow] ⟨[], [], .queryBody
      (.select renamedUsers [.columnRef ["u"]] .null .null .null [])⟩ :=
    atQuery.below ⟨List.mem_cons_self, rfl⟩
  have atRow : FrameIn sampleBinder [.select selectsRow]
      ⟨[], [sources sampleBinder [] renamedUsers], .expr (.columnRef ["u"])⟩ :=
    atBody.below ⟨List.mem_cons_of_mem _ List.mem_cons_self, rfl⟩
  have reads : Reads sampleBinder [.select selectsRow]
      { table := { name := "users" }, column := "ssn" } :=
    ⟨_, atRow, by decide⟩
  exact absurd (covered _ reads) (by decide)

-- `users AS u JOIN leaked USING (ssn)` reads `ssn` on both sides.
example :
    (readsOf sampleBinder [] [] (.tableRef (.join renamedUsers
      (.baseTable { name := "leaked" } "" [] false .null) .null ["ssn"] false))) = [
        { table := { name := "users" }, column := "ssn" },
        { table := { name := "leaked" }, column := "ssn" }] := by
  decide

end Sql
end QuackOauth
