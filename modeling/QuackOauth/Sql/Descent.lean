import QuackOauth.Sql.Tree

/-!
# Descent into the parts of a node

What holds of the nodes among the parts of a node is computed part by part.  They are
smaller than the node, so that the parts make finite trees.
-/

namespace QuackOauth
namespace Sql

/-- The nodes among parts have a property. -/
def VisitsOnly (property : Node → Prop) (nodeParts : List Part) : Prop :=
  ∀ child, .visit child ∈ nodeParts → property child.2

section Parts

variable {property : Node → Prop} {scope : Scope}

@[simp] theorem visitsOnly_nil : VisitsOnly property [] := by
  intro child member
  cases member

@[simp] theorem visitsOnly_emit {event : Event} {rest : List Part} :
    VisitsOnly property (.emit event :: rest) ↔ VisitsOnly property rest := by
  simp [VisitsOnly]

@[simp] theorem visitsOnly_visit {child : Scope × Node} {rest : List Part} :
    VisitsOnly property (.visit child :: rest) ↔
      property child.2 ∧ VisitsOnly property rest := by
  simp [VisitsOnly, or_imp, forall_and]

@[simp] theorem visitsOnly_append {first second : List Part} :
    VisitsOnly property (first ++ second) ↔
      VisitsOnly property first ∧ VisitsOnly property second := by
  simp [VisitsOnly, or_imp, forall_and]

@[simp] theorem visitsOnly_ite
    {condition : Prop}
    [Decidable condition]
    {first second : List Part} :
    VisitsOnly property (if condition then first else second) ↔
      (condition → VisitsOnly property first) ∧
        (¬condition → VisitsOnly property second) := by
  split_ifs with holds <;> simp [holds]

@[simp] theorem visitsOnly_map_emit {events : List Event} :
    VisitsOnly property (events.map .emit) := by
  simp [VisitsOnly]

@[simp] theorem visitsOnly_map_visit
    {Element : Type}
    {wrap : Element → Node}
    {elements : List Element} :
    VisitsOnly property (elements.map fun element => .visit (scope, wrap element)) ↔
      ∀ element ∈ elements, property (wrap element) := by
  simp [VisitsOnly]

@[simp] theorem visitsOnly_exprParts {expressions : List Expr} :
    VisitsOnly property (exprParts scope expressions) ↔
      ∀ expr ∈ expressions, property (.expr expr) :=
  visitsOnly_map_visit

@[simp] theorem visitsOnly_requiredParts
    {message : String}
    {expressions : List Expr} :
    VisitsOnly property (requiredParts message scope expressions) ↔
      ∀ expr ∈ expressions, expr.isNull = false → property (.expr expr) := by
  constructor
  · intro visits expr member notNull
    apply visits (scope, .expr expr)
    apply List.mem_map.mpr
    exact ⟨expr, member, by rw [notNull]; rfl⟩
  · intro visits child member
    obtain ⟨expr, exprMember, same⟩ := List.mem_map.mp member
    split_ifs at same with isNull
    cases same
    exact visits expr exprMember (Bool.eq_false_iff.mpr isNull)

@[simp] theorem visitsOnly_unlessPart {condition : Bool} {message : String} :
    VisitsOnly property (unlessPart condition message) := by
  unfold unlessPart
  split_ifs <;> simp

@[simp] theorem visitsOnly_requiredQuery
    {message : String}
    {query : QueryNode} :
    VisitsOnly property (requiredQuery message scope query) ↔
      (query.isNull = false → property (.queryNode query)) := by
  unfold requiredQuery
  split_ifs with isNull <;> simp [isNull]

@[simp] theorem visitsOnly_cteParts {cteMap : List Cte} :
    VisitsOnly property (cteParts scope cteMap) ↔
      ∀ cte ∈ cteMap, property (.cte cte) := by
  induction cteMap generalizing scope with
  | nil => simp [cteParts]
  | cons cte rest inductionHypothesis => simp [cteParts, inductionHypothesis]

end Parts

/-- The nodes among parts are smaller than a bound. -/
abbrev SmallerThan (bound : Nat) (nodeParts : List Part) : Prop :=
  VisitsOnly (fun child => sizeOf child < bound) nodeParts

/-! ## Nodes -/

section Nodes

variable (scope : Scope)

theorem smallerThan_expr (expr : Expr) :
    SmallerThan (sizeOf (Node.expr expr)) (parts scope (.expr expr)) := by
  cases expr <;> simp [parts] <;> grind [→ List.sizeOf_lt_of_mem]

theorem smallerThan_tableRef (ref : TableRef) :
    SmallerThan (sizeOf (Node.tableRef ref)) (parts scope (.tableRef ref)) := by
  cases ref <;> simp [parts, requiredExpr] <;> grind [→ List.sizeOf_lt_of_mem]

theorem smallerThan_pivot (pivot : PivotColumn) :
    SmallerThan (sizeOf (Node.pivot pivot)) (parts scope (.pivot pivot)) := by
  cases pivot
  simp [parts]
  grind [→ List.sizeOf_lt_of_mem]

theorem smallerThan_queryNode (node : QueryNode) :
    SmallerThan (sizeOf (Node.queryNode node)) (parts scope (.queryNode node)) := by
  cases node <;> simp [parts]
  grind [→ List.sizeOf_lt_of_mem]

theorem smallerThan_queryBody (body : QueryBody) :
    SmallerThan (sizeOf (Node.queryBody body)) (parts scope (.queryBody body)) := by
  cases body <;> simp [parts] <;> grind [→ List.sizeOf_lt_of_mem]

theorem smallerThan_cte (cte : Cte) :
    SmallerThan (sizeOf (Node.cte cte)) (parts scope (.cte cte)) := by
  cases cte <;> simp [parts]

theorem smallerThan_modifier (modifier : Modifier) :
    SmallerThan (sizeOf (Node.modifier modifier)) (parts scope (.modifier modifier)) := by
  cases modifier <;> simp [parts] <;> grind [→ List.sizeOf_lt_of_mem]

theorem smallerThan_setInfo (info : SetInfo) :
    SmallerThan (sizeOf (Node.setInfo info)) (parts scope (.setInfo info)) := by
  cases info <;> simp [parts]
  grind [→ List.sizeOf_lt_of_mem]

theorem smallerThan_insert (node : InsertNode) :
    SmallerThan (sizeOf (Node.insert node)) (parts scope (.insert node)) := by
  cases node
  simp [parts]
  grind [→ List.sizeOf_lt_of_mem]

theorem smallerThan_update (node : UpdateNode) :
    SmallerThan (sizeOf (Node.update node)) (parts scope (.update node)) := by
  cases node
  simp [parts]
  grind [→ List.sizeOf_lt_of_mem]

theorem smallerThan_delete (node : DeleteNode) :
    SmallerThan (sizeOf (Node.delete node)) (parts scope (.delete node)) := by
  cases node
  simp [parts]
  grind [→ List.sizeOf_lt_of_mem]

theorem smallerThan_merge (node : MergeNode) :
    SmallerThan (sizeOf (Node.merge node)) (parts scope (.merge node)) := by
  cases node
  simp [parts]
  grind [→ List.sizeOf_lt_of_mem]

theorem smallerThan_mergeAction (action : MergeAction) :
    SmallerThan (sizeOf (Node.mergeAction action)) (parts scope (.mergeAction action)) := by
  cases action <;> simp [parts]
  grind [→ List.sizeOf_lt_of_mem]

theorem smallerThan_copyInfo (info : CopyInfo) :
    SmallerThan (sizeOf (Node.copyInfo info)) (parts scope (.copyInfo info)) := by
  cases info <;> simp [parts]
  grind [→ List.sizeOf_lt_of_mem]

theorem smallerThan_column (column : ColumnDefinition) :
    SmallerThan (sizeOf (Node.column column)) (parts scope (.column column)) := by
  cases column <;> simp [parts]

theorem smallerThan_constraint (constraint : Constraint) :
    SmallerThan (sizeOf (Node.constraint constraint))
      (parts scope (.constraint constraint)) := by
  cases constraint <;> simp [parts, requiredExpr]

theorem smallerThan_alterKind (kind : AlterKind) :
    SmallerThan (sizeOf (Node.alterKind kind)) (parts scope (.alterKind kind)) := by
  cases kind <;> simp [parts, requiredExpr]

theorem smallerThan_statement (statement : Statement) :
    SmallerThan (sizeOf (Node.statement statement))
      (parts scope (.statement statement)) := by
  cases statement <;> simp [parts] <;> grind [→ List.sizeOf_lt_of_mem]

/-- The nodes below a node are smaller than it. -/
theorem smallerThan_parts (node : Node) :
    SmallerThan (sizeOf node) (parts scope node) := by
  cases node with
  | expr expr => exact smallerThan_expr scope expr
  | tableRef ref => exact smallerThan_tableRef scope ref
  | pivot pivot => exact smallerThan_pivot scope pivot
  | queryNode node => exact smallerThan_queryNode scope node
  | queryBody body => exact smallerThan_queryBody scope body
  | cte cte => exact smallerThan_cte scope cte
  | modifier modifier => exact smallerThan_modifier scope modifier
  | setInfo info => exact smallerThan_setInfo scope info
  | insert node => exact smallerThan_insert scope node
  | update node => exact smallerThan_update scope node
  | delete node => exact smallerThan_delete scope node
  | merge node => exact smallerThan_merge scope node
  | mergeAction action => exact smallerThan_mergeAction scope action
  | copyInfo info => exact smallerThan_copyInfo scope info
  | column column => exact smallerThan_column scope column
  | constraint constraint => exact smallerThan_constraint scope constraint
  | alterKind kind => exact smallerThan_alterKind scope kind
  | statement statement => exact smallerThan_statement scope statement

end Nodes

/-- Syntax trees, read lexically. -/
def syntaxTree : Lib.Unfolding Event (Scope × Node) where
  parts node := parts node.1 node.2
  descends := Subrelation.wf
    (fun {child node} member => smallerThan_parts node.1 node.2 child member)
    (measure fun node : Scope × Node => sizeOf node.2).wf

@[simp] theorem syntaxTree_parts (node : Scope × Node) :
    syntaxTree.parts node = parts node.1 node.2 := rfl

/-- What a node in a scope contributes to the request, in the order of the walk. -/
def events (scope : Scope) (node : Node) : List Event :=
  syntaxTree.yield (scope, node)

theorem events_eq (scope : Scope) (node : Node) :
    events scope node = syntaxTree.partsYield (parts scope node) :=
  syntaxTree.yield_eq (scope, node)

@[simp] theorem partYield_visit_eq_events (scope : Scope) (node : Node) :
    syntaxTree.partYield (.visit (scope, node)) = events scope node := rfl

end Sql
end QuackOauth
