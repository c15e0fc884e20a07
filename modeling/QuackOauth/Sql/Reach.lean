import QuackOauth.Policy.Table
import QuackOauth.Sql.Columns
import QuackOauth.Sql.HiddenWrite
import QuackOauth.Sql.Target

/-!
# What an allowed request reaches

A policy is evaluated on the objects and the columns of a request.  If the request is
allowed, then so is every object that its statements reach, with every column that they
ask for, on its own, unless the object is hidden: the target of a write that an alias
shadows.
-/

namespace QuackOauth
namespace Sql

open Lib Policy

/-- Statements reach an object: a node names it, or a write changes it, whatever aliases are
in scope. -/
inductive Reaches (statements : List Statement) : String → Prop
  | named
      {scope : Scope}
      {node : Node}
      {object : String}
      (occurs : OccursIn statements scope node)
      (names : Names scope node object) :
      Reaches statements object
  | changed
      {scope : Scope}
      {node : Node}
      {target : QualifiedName}
      (occurs : OccursIn statements scope node)
      (writes : writeTarget node = some target)
      (stands : StandsForObject target) :
      Reaches statements (objectName target)

/-- An object is hidden: it is the target of a write that walks it as an alias in scope, and
no node names it. -/
def Hidden (statements : List Statement) (object : String) : Prop :=
  (∃ scope node target, OccursIn statements scope node ∧ writeTarget node = some target ∧
    walksTarget node = true ∧ boundToCte scope target = true ∧ objectName target = object) ∧
  ¬NamedIn statements object

/-- Statements ask for a column by its name or by a star, or for none at all. -/
inductive AsksFor (statements : List Statement) : String → Prop
  | spelled
      {column : String}
      (spelled : Spelled statements column) : AsksFor statements column
  | starred (starred : Starred statements) : AsksFor statements "*"
  | nothing
      (unspelled : ∀ column, ¬Spelled statements column)
      (unstarred : ¬Starred statements) : AsksFor statements ""

variable {statements : List Statement}

/-- What the statements of an accepted request reach is among its objects, unless it is
hidden. -/
theorem Reaches.mem_objects
    (accepted : Accepted statements)
    {object : String}
    (reaches : Reaches statements object)
    (shown : ¬Hidden statements object) :
    object ∈ (inspectStatements statements).objects := by
  cases reaches with
  | named occurs names => exact mem_objects_of_names accepted occurs names
  | @changed scope node target occurs writes stands =>
      by_cases bound : walksTarget node = true ∧ boundToCte scope target = true
      · rw [mem_objects_iff_namedIn accepted]
        by_contra unnamed
        exact shown ⟨⟨scope, node, target, occurs, writes, bound.1, bound.2, rfl⟩, unnamed⟩
      · have unbound : walksTarget node = true → boundToCte scope target = false :=
          fun walks => Bool.eq_false_iff.mpr fun isBound => bound ⟨walks, isBound⟩
        exact objectName_mem_objects accepted (emits_writeTarget accepted occurs writes unbound)
          stands.1 stands.2

/-- An object that is reached and not hidden makes a cell with each column that is asked for. -/
theorem mem_touchedCells_of_reaches
    (accepted : Accepted statements)
    {object column : String}
    (reaches : Reaches statements object)
    (shown : ¬Hidden statements object)
    (asks : AsksFor statements column) :
    (object, column) ∈
      touchedCells (inspectStatements statements).objects
        (inspectStatements statements).columns := by
  have isObject := reaches.mem_objects accepted shown
  have cell_of_mem (isColumn : column ∈ (inspectStatements statements).columns) :
      (object, column) ∈
        touchedCells (inspectStatements statements).objects
          (inspectStatements statements).columns :=
    (mem_touchedCells (List.ne_nil_of_mem isColumn)).mpr ⟨isObject, isColumn⟩
  cases asks with
  | spelled spelled => exact cell_of_mem (mem_columns_iff_spelled.mpr (.inl spelled))
  | starred starred => exact cell_of_mem (starred_iff_mem_columns.mp starred)
  | nothing unspelled unstarred =>
      have noColumns : (inspectStatements statements).columns = [] := by
        apply List.eq_nil_iff_forall_not_mem.mpr
        intro other isColumn
        rcases mem_columns_iff_spelled.mp isColumn with spelled | ⟨-, starred⟩
        · exact unspelled other spelled
        · exact unstarred starred
      rw [noColumns]
      simpa [touchedCells] using isObject

/-- If a policy allows an accepted request, it allows each of its cells. -/
theorem evaluateCell_of_reaches
    (accepted : Accepted statements)
    {doc : PolicyDocument}
    {principal : Principal}
    {object column : String}
    (allows : (evaluatePolicy doc principal (inspectStatements statements)).decision = .allow)
    (reaches : Reaches statements object)
    (shown : ¬Hidden statements object)
    (asks : AsksFor statements column) :
    (evaluateCell doc principal (requestVerb statements) object column).decision =
      .allow := by
  have nonempty : (inspectStatements statements).objects ≠ [] :=
    List.ne_nil_of_mem (reaches.mem_objects accepted shown)
  rw [← inspectStatements_action]
  exact (evaluatePolicy_allow_iff nonempty).mp allows (object, column)
    (mem_touchedCells_of_reaches accepted reaches shown asks)

/-! ## Requests that only read -/

/-- The verbs that change nothing. -/
def isRead (action : Action) : Bool :=
  action = .attach || action = .scan

theorem isRead_admittedBy
    {action : Action}
    (reads : isRead action = true)
    (kind : WriteKind) :
    kind.admittedBy action = false := by
  cases action <;> cases reads <;> cases kind <;> rfl

/-- No data-modifying node amounts to a read. -/
theorem isRead_of_writeAction
    {node : Node}
    {action : Action}
    (writes : writeAction node = some action) :
    isRead action = false := by
  cases node with
  | copyInfo info =>
      cases info with
      | null => cases writes
      | info target isFrom select filePath options =>
          cases isFrom <;> cases writes <;> rfl
  | _ => cases writes <;> rfl

/-- Under the verb of a read there is no data-modifying node, wherever one looks. -/
theorem writeAction_eq_none_of_isRead
    (accepted : Accepted statements)
    (plain : ∀ statement ∈ statements, isPlain statement = true)
    (reads : isRead (requestVerb statements) = true)
    {scope : Scope}
    {node : Node}
    (occurs : OccursIn statements scope node) :
    writeAction node = none := by
  apply Option.eq_none_iff_forall_ne_some.mpr
  intro action writes
  rcases writeNode_of_occursIn plain occurs writes with
    ⟨bodyScope, body, bodyOccurs, isNode⟩ | ⟨statement, member, isNode⟩
  · obtain ⟨kind, isKind⟩ := exists_writeKindOf isNode
    have admitted := admittedBy_of_occursIn accepted bodyOccurs isKind
    rw [isRead_admittedBy reads] at admitted
    cases admitted
  · have notRead := isRead_of_writeAction writes
    rw [verb_eq_writeAction isNode writes, accepted.sameVerb statement member, reads]
      at notRead
    cases notRead

end Sql
end QuackOauth
