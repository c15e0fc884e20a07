import QuackOauth.Sql.Inspect

/-!
# Hidden writes

Which data-modifying nodes an accepted request can contain.  All are of the kind that
the verb of the request reports, if it contains no query that is a `COPY FROM`: such a
query passes in a request that copies to a file.
-/

namespace QuackOauth
namespace Sql

open Policy

/-! ## Data-modifying nodes -/

/-- The verb that a data-modifying node amounts to. -/
def writeAction : Node → Option Action
  | .insert _ => some .insert
  | .update _ => some .update
  | .delete _ => some .delete
  | .merge _ => some .update
  | .copyInfo (.info _ true _ _ _) => some .copyFrom
  | .copyInfo (.info _ false _ _ _) => some .copyTo
  | _ => none

/-- The data-modifying node that is the body of a query. -/
def QueryBody.writeNode : QueryBody → Option Node
  | .update node => some (.update node)
  | .delete node => some (.delete node)
  | .insert node => some (.insert node)
  | .merge node => some (.merge node)
  | .copy info => some (.copyInfo info)
  | _ => none

/-- The data-modifying node that a statement is. -/
def Statement.writeNode : Statement → Option Node
  | .insert _ node => some (.insert node)
  | .update _ node => some (.update node)
  | .delete _ node => some (.delete node)
  | .merge _ node => some (.merge node)
  | .copy info => some (.copyInfo info)
  | _ => none

/-- A query that copies from a file. -/
def isCopyFrom : QueryBody → Bool
  | .copy (.info _ isFrom _ _ _) => isFrom
  | _ => false

/-- A statement whose parts are read as they stand: no `EXPLAIN`, and a `CREATE TYPE`
only from a `SELECT`, as the parser builds it. -/
def isPlain : Statement → Bool
  | .explain _ _ => false
  | .createType _ .null => true
  | .createType _ (.select _) => true
  | .createType _ _ => false
  | _ => true

/-- Every data-modifying node that occurs is of the kind that the verb reports. -/
structure NoHiddenWrite (statements : List Statement) : Prop where
  kinds :
    ∀ {scope node action}, OccursIn statements scope node →
      writeAction node = some action →
      action = (inspectStatements statements).action
  merges :
    ∀ {scope node}, OccursIn statements scope (.merge node) → mergeOnlyUpdates node = true

/-- No query that occurs copies from a file. -/
def NoCopyFromQuery (statements : List Statement) : Prop :=
  ∀ scope body, OccursIn statements scope (.queryBody body) → isCopyFrom body = false

/-- A request that is reported as a read has no data-modifying node. -/
theorem NoHiddenWrite.writeAction_eq_none
    {statements : List Statement}
    (noHidden : NoHiddenWrite statements)
    (reads : (inspectStatements statements).action = .scan)
    {scope : Scope}
    {node : Node}
    (occurs : OccursIn statements scope node) :
    writeAction node = none := by
  cases writes : writeAction node with
  | none => rfl
  | some action =>
      have isScan : action = .scan := (noHidden.kinds occurs writes).trans reads
      subst isScan
      cases node with
      | copyInfo info =>
          cases info with
          | null => cases writes
          | info target isFrom select filePath options => cases isFrom <;> cases writes
      | _ => cases writes

/-! ## Where data-modifying nodes stand -/

/-- A node that may modify data, or a statement. -/
def isCarried : Node → Bool
  | .insert _ => true
  | .update _ => true
  | .delete _ => true
  | .merge _ => true
  | .copyInfo _ => true
  | .statement _ => true
  | _ => false

/-- The nodes that have a data-modifying node or a statement directly below them. -/
inductive CarriedBy : Node → Node → Prop
  | body
      {body : QueryBody}
      {child : Node}
      (writes : body.writeNode = some child) : CarriedBy (.queryBody body) child
  | statement
      {statement : Statement}
      {child : Node}
      (writes : statement.writeNode = some child) : CarriedBy (.statement statement) child
  | explained
      (isAnalyze : Bool)
      (statement : Statement) :
      CarriedBy (.statement (.explain isAnalyze statement)) (.statement statement)
  | typed
      (target : QualifiedName)
      {statement : Statement}
      (notNull : statement.isNull = false) :
      CarriedBy (.statement (.createType target statement)) (.statement statement)

theorem carriedBy_queryBody (scope : Scope) (body : QueryBody) :
    VisitsOnly (fun child => isCarried child = true → CarriedBy (.queryBody body) child)
      (parts scope (.queryBody body)) := by
  cases body with
  | update node => simpa [isCarried] using .body rfl
  | delete node => simpa [isCarried] using .body rfl
  | insert node => simpa [isCarried] using .body rfl
  | merge node => simpa [isCarried] using .body rfl
  | copy info => simpa [isCarried] using .body rfl
  | _ => simp [isCarried, exprParts]

theorem carriedBy_statement (scope : Scope) (statement : Statement) :
    VisitsOnly
      (fun child => isCarried child = true → CarriedBy (.statement statement) child)
      (parts scope (.statement statement)) := by
  cases statement with
  | insert cteMap node => simpa [isCarried] using .statement rfl
  | update cteMap node => simpa [isCarried] using .statement rfl
  | delete cteMap node => simpa [isCarried] using .statement rfl
  | merge cteMap node => simpa [isCarried] using .statement rfl
  | copy info => simpa [isCarried] using .statement rfl
  | explain isAnalyze statement =>
      simpa [isCarried] using fun _ => .explained isAnalyze statement
  | createType target statement =>
      simpa [isCarried] using fun notNull => .typed target notNull
  | _ => simp [isCarried]

/-- Data-modifying nodes and statements only stand below the body of a query and below
statements. -/
theorem carriedBy_of_below (scope : Scope) (node : Node) :
    VisitsOnly (fun child => isCarried child = true → CarriedBy node child)
      (parts scope node) := by
  cases node with
  | queryBody body => exact carriedBy_queryBody scope body
  | statement statement => exact carriedBy_statement scope statement
  | expr expr => cases expr <;> simp [isCarried]
  | tableRef ref => cases ref <;> simp [isCarried, requiredExpr]
  | pivot pivot =>
      cases pivot
      simp [isCarried]
  | queryNode node => cases node <;> simp [isCarried]
  | cte cte => cases cte <;> simp [isCarried]
  | modifier modifier => cases modifier <;> simp [isCarried]
  | setInfo info => cases info <;> simp [isCarried]
  | insert node =>
      cases node
      simp [isCarried]
  | update node =>
      cases node
      simp [isCarried]
  | delete node =>
      cases node
      simp [isCarried]
  | merge node =>
      cases node
      simp [isCarried]
  | mergeAction action => cases action <;> simp [isCarried]
  | copyInfo info => cases info <;> simp [isCarried]
  | column column => cases column <;> simp [isCarried]
  | constraint constraint => cases constraint <;> simp [isCarried, requiredExpr]
  | alterKind kind => cases kind <;> simp [isCarried, requiredExpr]

theorem isCarried_of_writeAction
    {node : Node}
    {action : Action}
    (writes : writeAction node = some action) :
    isCarried node = true := by
  cases node <;> first | rfl | cases writes

section Occurrences

variable {statements : List Statement}

/-- A statement that occurs in plain statements is one of them, or a `SELECT`. -/
theorem mem_or_select_of_occursIn
    (plain : ∀ statement ∈ statements, isPlain statement = true)
    {scope : Scope}
    {statement : Statement}
    (occurs : OccursIn statements scope (.statement statement)) :
    statement ∈ statements ∨ ∃ node, statement = .select node := by
  obtain ⟨root, rootMember, occurs⟩ := occurs
  have inherited {node child : Scope × Node} (below : syntaxTree.Below node child)
      (known : ∀ statement, node.2 = .statement statement →
        statement ∈ statements ∨ ∃ node, statement = .select node) :
      ∀ statement, child.2 = .statement statement →
        statement ∈ statements ∨ ∃ node, statement = .select node := by
    intro statement isStatement
    obtain ⟨scope, node⟩ := node
    have carried := carriedBy_of_below scope node child below
    rw [isStatement] at carried
    cases carried rfl with
    | @body body _ writes => cases body <;> cases writes
    | @statement carrier _ writes => cases carrier <;> cases writes
    | explained isAnalyze =>
        rcases known _ rfl with member | ⟨_, isSelect⟩
        · cases plain _ member
        · cases isSelect
    | typed target notNull =>
        rcases known _ rfl with member | ⟨_, isSelect⟩
        · have ofSelect := plain _ member
          cases statement with
          | null => cases notNull
          | select node => exact .inr ⟨node, rfl⟩
          | _ => cases ofSelect
        · cases isSelect
  apply syntaxTree.occurs_invariant inherited occurs
  · rintro statement isRoot
    cases isRoot
    exact .inl rootMember
  · rfl

/-- A data-modifying node is the body of a query, or a whole statement. -/
theorem writeNode_of_occursIn
    (plain : ∀ statement ∈ statements, isPlain statement = true)
    {scope : Scope}
    {node : Node}
    {action : Action}
    (occurs : OccursIn statements scope node)
    (writes : writeAction node = some action) :
    (∃ scope body, OccursIn statements scope (.queryBody body) ∧
        body.writeNode = some node) ∨
      ∃ statement ∈ statements, statement.writeNode = some node := by
  obtain ⟨root, rootMember, occurs⟩ := occurs
  rcases Relation.ReflTransGen.cases_tail occurs with
    same | ⟨⟨parentScope, parent⟩, parentOccurs, below⟩
  · cases same
    cases writes
  · have parentOccursIn : OccursIn statements parentScope parent :=
      ⟨root, rootMember, parentOccurs⟩
    have carried := carriedBy_of_below parentScope parent _ below
      (isCarried_of_writeAction writes)
    cases carried with
    | body isNode => exact .inl ⟨parentScope, _, parentOccursIn, isNode⟩
    | @statement statement _ isNode =>
        rcases mem_or_select_of_occursIn plain parentOccursIn with member | ⟨_, rfl⟩
        · exact .inr ⟨statement, member, isNode⟩
        · cases isNode
    | explained => cases writes
    | typed => cases writes

/-- The verb that admits a kind of write. -/
def WriteKind.action : WriteKind → Action
  | .update => .update
  | .delete => .delete
  | .insert => .insert
  | .merge _ => .update
  | .copy => .copyTo

theorem WriteKind.eq_action_of_admittedBy
    {kind : WriteKind}
    {action : Action}
    (admitted : kind.admittedBy action = true) :
    action = kind.action := by
  cases kind with
  | merge onlyUpdates =>
      rw [WriteKind.admittedBy, Bool.and_eq_true] at admitted
      exact of_decide_eq_true admitted.1
  | _ => exact of_decide_eq_true admitted

/-- A query that modifies data, and does not copy from a file, is of the verb that
admits its kind. -/
theorem writeAction_eq_action
    {body : QueryBody}
    {node : Node}
    {kind : WriteKind}
    {action : Action}
    (isKind : writeKindOf body = some kind)
    (isNode : body.writeNode = some node)
    (notFrom : isCopyFrom body = false)
    (writes : writeAction node = some action) :
    action = kind.action := by
  cases body with
  | copy info =>
      cases isKind
      cases isNode
      cases info with
      | null => cases writes
      | info target isFrom select filePath options =>
          cases notFrom
          cases writes
          rfl
  | _ => cases isKind <;> cases isNode <;> cases writes <;> rfl

/-- A statement that modifies data has the verb of what it does. -/
theorem verb_eq_writeAction
    {statement : Statement}
    {node : Node}
    {action : Action}
    (isNode : statement.writeNode = some node)
    (writes : writeAction node = some action) :
    action = verb statement := by
  cases statement with
  | copy info =>
      cases isNode
      cases info with
      | null => cases writes
      | info target isFrom select filePath options => cases isFrom <;> cases writes <;> rfl
  | insert cteMap node =>
      cases isNode
      cases writes
      rfl
  | update cteMap node =>
      cases isNode
      cases writes
      rfl
  | delete cteMap node =>
      cases isNode
      cases writes
      rfl
  | merge cteMap node =>
      cases isNode
      cases writes
      rfl
  | _ => cases isNode

/-- A query that modifies data tells its kind. -/
theorem emits_write
    {scope : Scope}
    {body : QueryBody}
    {kind : WriteKind}
    (occurs : OccursIn statements scope (.queryBody body))
    (writes : writeKindOf body = some kind) :
    Emits statements (.write kind) := by
  refine ⟨scope, _, occurs, ?_⟩
  cases body <;> cases writes <;> simp

/-- A query that modifies data has a kind. -/
theorem exists_writeKindOf
    {body : QueryBody}
    {node : Node}
    (isNode : body.writeNode = some node) :
    ∃ kind, writeKindOf body = some kind := by
  cases body <;> cases isNode <;> exact ⟨_, rfl⟩

/-- In an accepted request the verb admits every query that modifies data. -/
theorem admittedBy_of_occursIn
    (accepted : Accepted statements)
    {scope : Scope}
    {body : QueryBody}
    {kind : WriteKind}
    (occurs : OccursIn statements scope (.queryBody body))
    (writes : writeKindOf body = some kind) :
    kind.admittedBy (requestVerb statements) = true := by
  simpa [Event.refuses] using accepted.admitted _ (emits_write occurs writes)

/-- A query that copies from a file is only admitted where it is hidden. -/
theorem NoHiddenWrite.noCopyFromQuery
    (accepted : Accepted statements)
    (noHidden : NoHiddenWrite statements) :
    NoCopyFromQuery statements := by
  intro scope body occurs
  apply Bool.eq_false_iff.mpr
  intro copiesFrom
  cases body with
  | copy info =>
      cases info with
      | null => cases copiesFrom
      | info target isFrom select filePath options =>
          cases copiesFrom
          -- The request copies to a file, and the query copies from one.
          have copiesTo : requestVerb statements = .copyTo :=
            WriteKind.eq_action_of_admittedBy (admittedBy_of_occursIn accepted occurs rfl)
          have below : OccursIn statements scope
              (.copyInfo (.info target true select filePath options)) :=
            occurs.below (by simp)
          have reported := noHidden.kinds below rfl
          rw [inspectStatements_action, copiesTo] at reported
          cases reported
  | _ => cases copiesFrom

/-- Without queries that copy from a file, every data-modifying node is of the kind that
the verb reports. -/
theorem NoCopyFromQuery.noHiddenWrite
    (accepted : Accepted statements)
    (plain : ∀ statement ∈ statements, isPlain statement = true)
    (noCopyFrom : NoCopyFromQuery statements) :
    NoHiddenWrite statements := by
  constructor
  case kinds =>
    intro scope node action occurs writes
    rw [inspectStatements_action]
    rcases writeNode_of_occursIn plain occurs writes with
      ⟨bodyScope, body, bodyOccurs, isNode⟩ | ⟨statement, member, isNode⟩
    · obtain ⟨kind, isKind⟩ := exists_writeKindOf isNode
      have admitted := admittedBy_of_occursIn accepted bodyOccurs isKind
      have notFrom := noCopyFrom bodyScope body bodyOccurs
      rw [writeAction_eq_action isKind isNode notFrom writes]
      exact (WriteKind.eq_action_of_admittedBy admitted).symm
    · rw [verb_eq_writeAction isNode writes]
      exact accepted.sameVerb statement member
  case merges =>
    intro scope node occurs
    have writes : writeAction (.merge node) = some .update := rfl
    rcases writeNode_of_occursIn plain occurs writes with
      ⟨bodyScope, body, bodyOccurs, isNode⟩ | ⟨statement, member, isNode⟩
    · cases body <;> cases isNode
      have admitted := admittedBy_of_occursIn accepted bodyOccurs rfl
      rw [WriteKind.admittedBy, Bool.and_eq_true] at admitted
      exact admitted.2
    · cases statement <;> cases isNode
      have classified := accepted.classified _ member
      simpa [classifyEvents] using classified

/-- Accepted plain statements hide no write exactly if no query copies from a file. -/
theorem noHiddenWrite_iff
    (safe : (inspectStatements statements).isUnsafe = false)
    (plain : ∀ statement ∈ statements, isPlain statement = true) :
    NoHiddenWrite statements ↔ NoCopyFromQuery statements := by
  have accepted := accepted_of_isUnsafe_eq_false safe
  constructor
  · exact fun noHidden => noHidden.noCopyFromQuery accepted
  · exact fun noCopyFrom => noCopyFrom.noHiddenWrite accepted plain

end Occurrences

/-- `WITH loaded AS (COPY users FROM 'rows.csv') SELECT 1`. -/
def loadsInside : QueryNode :=
  .node
    [.definition "loaded"
      (.node [] [] (.copy (.info { name := "users" } true .null (.constant "rows.csv") [])))]
    []
    (.select .inert [.constant "1"] .null .null .null [])

/-- The query above, copied to a file. -/
def copiesLoad : Statement :=
  .copy (.info {} false loadsInside (.constant "out.csv") [])

theorem noHiddenWrite_iff_sample :
    NoHiddenWrite [copiesLoad] ↔ NoCopyFromQuery [copiesLoad] :=
  noHiddenWrite_iff (by decide) (by decide)

/-- The inner copy fills a table, and the request says that it copies to a file. -/
theorem copy_from_hidden_in_copy_to :
    (inspectStatements [copiesLoad]).isUnsafe = false ∧
      (∀ statement ∈ [copiesLoad], isPlain statement = true) ∧
      ¬NoHiddenWrite [copiesLoad] := by
  refine ⟨by decide, by decide, ?_⟩
  intro noHidden
  have atStatement : OccursIn [copiesLoad] [] (.statement copiesLoad) :=
    occursIn_of_mem List.mem_cons_self
  have atCopy := atStatement.below List.mem_cons_self
  have atQuery : OccursIn [copiesLoad] [] (.queryNode loadsInside) :=
    atCopy.below (by simp)
  have atEntry := atQuery.below List.mem_cons_self
  have atLoad := atEntry.below List.mem_cons_self
  have atBody := atLoad.below List.mem_cons_self
  have atCopyFrom := atBody.below (List.mem_cons_of_mem _ List.mem_cons_self)
  have reported := noHidden.kinds atCopyFrom rfl
  exact absurd reported (by decide)

end Sql
end QuackOauth
