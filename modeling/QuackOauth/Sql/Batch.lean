import QuackOauth.Policy.Star
import QuackOauth.Sql.Coverage

/-!
# Statements in a batch

One request stands for all statements of a batch.  Its cells are those of its
statements if the statements are alike in naming objects and columns; otherwise a
policy can allow the batch and deny one of its statements alone.
-/

namespace QuackOauth
namespace Sql

open Policy

/-! ## Names -/

/-- A statement names an object. -/
def NamesObject (statement : Statement) : Prop :=
  ∃ event, Emits [statement] event ∧ event.surfacedObject.isSome

/-- A statement names a column. -/
def NamesColumn (statement : Statement) : Prop :=
  ∃ event, Emits [statement] event ∧ event.surfacedColumn.isSome

/-- The statements of a batch are alike: none names an object, or all do, and then
none or all of them name a column. -/
def Uniform (statements : List Statement) : Prop :=
  (∀ statement ∈ statements, ¬NamesObject statement) ∨
    (∀ statement ∈ statements, NamesObject statement) ∧
      ((∀ statement ∈ statements, ¬NamesColumn statement) ∨
        ∀ statement ∈ statements, NamesColumn statement)

variable {statements : List Statement} {statement : Statement}
variable {object column : String}

section Surfaced

variable {surfaced : Event → Option String} {listed : List String}

/-- What lists the names that a statement surfaces has one if the statement does. -/
theorem exists_isSome_iff_ne_nil
    (lists : ∀ name, name ∈ listed ↔
      ∃ event, Emits [statement] event ∧ surfaced event = some name) :
    (∃ event, Emits [statement] event ∧ (surfaced event).isSome) ↔ listed ≠ [] := by
  constructor
  · rintro ⟨event, emits, surfaces⟩
    obtain ⟨name, isSurfaced⟩ := Option.isSome_iff_exists.mp surfaces
    exact List.ne_nil_of_mem ((lists name).mpr ⟨event, emits, isSurfaced⟩)
  · intro nonempty
    obtain ⟨name, member⟩ := List.exists_mem_of_ne_nil _ nonempty
    obtain ⟨event, emits, isSurfaced⟩ := (lists name).mp member
    exact ⟨event, emits, Option.isSome_iff_exists.mpr ⟨name, isSurfaced⟩⟩

theorem namesObject_iff :
    NamesObject statement ↔ (inspectStatements [statement]).objects ≠ [] :=
  exists_isSome_iff_ne_nil fun _ => mem_objects_iff

theorem namesColumn_iff :
    NamesColumn statement ↔ (inspectStatements [statement]).columns ≠ [] :=
  exists_isSome_iff_ne_nil fun _ => mem_columns_iff

/-- A batch emits what its statements emit. -/
theorem emits_iff_exists {event : Event} :
    Emits statements event ↔ ∃ statement ∈ statements, Emits [statement] event := by
  simp [emits_iff]

/-- A batch surfaces what its statements surface. -/
theorem surfaces_iff_exists {name : String} :
    (∃ event, Emits statements event ∧ surfaced event = some name) ↔
      ∃ statement ∈ statements,
        ∃ event, Emits [statement] event ∧ surfaced event = some name := by
  constructor
  · rintro ⟨event, emits, isSurfaced⟩
    obtain ⟨statement, member, emits⟩ := emits_iff_exists.mp emits
    exact ⟨statement, member, event, emits, isSurfaced⟩
  · rintro ⟨statement, member, event, emits, isSurfaced⟩
    exact ⟨event, emits_iff_exists.mpr ⟨statement, member, emits⟩, isSurfaced⟩

/-- The objects of a batch are those of its statements. -/
theorem mem_batch_objects :
    object ∈ (inspectStatements statements).objects ↔
      ∃ statement ∈ statements, object ∈ (inspectStatements [statement]).objects := by
  simp only [mem_objects_iff]
  exact surfaces_iff_exists

/-- The columns of a batch are those of its statements. -/
theorem mem_batch_columns :
    column ∈ (inspectStatements statements).columns ↔
      ∃ statement ∈ statements, column ∈ (inspectStatements [statement]).columns := by
  simp only [mem_columns_iff]
  exact surfaces_iff_exists

end Surfaced

/-- A statement of an accepted batch asks for the action of the batch. -/
theorem Accepted.action_eq
    (accepted : Accepted statements)
    (member : statement ∈ statements) :
    (inspectStatements [statement]).action = (inspectStatements statements).action := by
  rw [inspectStatements_action, inspectStatements_action,
    ← accepted.sameVerb statement member, requestVerb, leadingVerb,
    if_neg (Bool.eq_false_iff.mp (accepted.notNull statement member))]

theorem append_ne_empty {first : String} (nonempty : first ≠ "") (second : String) :
    first ++ second ≠ "" := by
  intro empty
  have chars := congrArg String.toList empty
  simp at chars
  exact nonempty chars.1

/-- An object has a name. -/
theorem object_ne_empty
    (member : object ∈ (inspectStatements statements).objects) :
    object ≠ "" := by
  obtain ⟨event, ⟨scope, node, -, emitted⟩, surfaced⟩ := mem_objects_iff.mp member
  have named : ∀ target, (Event.object target).surfacedObject = some object →
      object ≠ "" := by
    intro target surfaced
    simp only [Event.surfacedObject, objectOf] at surfaced
    split_ifs at surfaced
    cases surfaced
    unfold objectName
    rw [String.append_assoc]
    intro empty
    have chars := congrArg String.toList empty
    simp at chars
  cases contributes_of_emit_mem_parts emitted with
  | tableFunction =>
      obtain ⟨-, surfaced⟩ := Option.ite_none_left_eq_some.mp surfaced
      cases surfaced
      exact append_ne_empty (by decide) _
  | schema =>
      cases surfaced
      exact append_ne_empty (by decide) _
  | catalog =>
      cases surfaced
      exact append_ne_empty (by decide) _
  | baseTable => exact named _ surfaced
  | showTarget => exact named _ surfaced
  | insertTarget => exact named _ surfaced
  | copyTarget => exact named _ surfaced
  | definition => exact named _ surfaced
  | _ => cases surfaced

/-- A column has a name. -/
theorem column_ne_empty
    (member : column ∈ (inspectStatements statements).columns) :
    column ≠ "" := by
  obtain ⟨event, -, surfaced⟩ := mem_columns_iff.mp member
  cases event with
  | column names =>
      obtain ⟨name, -, isColumn⟩ := Option.bind_eq_some_iff.mp surfaced
      unfold columnOf at isColumn
      split_ifs at isColumn with unnamed
      cases isColumn
      exact lowerAscii_ne_empty unnamed
  | star =>
      cases surfaced
      decide
  | _ => cases surfaced

/-! ## Batches that launder nothing -/

variable {doc : PolicyDocument} {principal : Principal}

/-- A request without objects touches the cell without names. -/
theorem evaluatePolicy_of_noObjects
    {request : AuthzRequest}
    (noObjects : request.objects = []) :
    evaluatePolicy doc principal request =
      evaluateCell doc principal request.action "" "" := by
  rw [evaluatePolicy, if_pos noObjects]

theorem mem_touchedCells_of_noColumns
    {objects : List String} :
    (object, column) ∈ touchedCells objects [] ↔ object ∈ objects ∧ column = "" := by
  simp [touchedCells]

theorem fst_mem_of_mem_touchedCells
    {objects columns : List String}
    {cell : String × String}
    (touched : cell ∈ touchedCells objects columns) :
    cell.1 ∈ objects := by
  obtain ⟨object, member, touched⟩ := List.mem_flatMap.mp touched
  split at touched
  · rw [List.mem_singleton.mp touched]
    exact member
  · obtain ⟨column, -, rfl⟩ := List.mem_map.mp touched
    exact member

/-- Statements that are alike are allowed alone if their batch is. -/
theorem Uniform.allows
    (uniform : Uniform statements)
    (accepted : Accepted statements)
    (allowed : (evaluatePolicy doc principal (inspectStatements statements)).decision =
      .allow)
    (member : statement ∈ statements) :
    (evaluatePolicy doc principal (inspectStatements [statement])).decision = .allow := by
  rcases uniform with nameless | ⟨named, columns⟩
  · have noObjects : (inspectStatements statements).objects = [] := by
      rw [List.eq_nil_iff_forall_not_mem]
      intro object inBatch
      obtain ⟨other, otherMember, inOther⟩ := mem_batch_objects.mp inBatch
      exact nameless other otherMember (namesObject_iff.mpr (List.ne_nil_of_mem inOther))
    have noObject : (inspectStatements [statement]).objects = [] := by
      by_contra nonempty
      exact nameless statement member (namesObject_iff.mpr nonempty)
    rw [evaluatePolicy_of_noObjects noObjects] at allowed
    rw [evaluatePolicy_of_noObjects noObject, accepted.action_eq member]
    exact allowed
  · have nonempty := namesObject_iff.mp (named statement member)
    have batchNonempty : (inspectStatements statements).objects ≠ [] := by
      obtain ⟨object, inObjects⟩ := List.exists_mem_of_ne_nil _ nonempty
      exact List.ne_nil_of_mem (mem_batch_objects.mpr ⟨statement, member, inObjects⟩)
    rw [evaluatePolicy_allow_iff batchNonempty] at allowed
    rw [evaluatePolicy_allow_iff nonempty, accepted.action_eq member]
    rintro ⟨object, column⟩ touched
    apply allowed
    rcases columns with columnless | columned
    · have noColumns : (inspectStatements statements).columns = [] := by
        rw [List.eq_nil_iff_forall_not_mem]
        intro column inBatch
        obtain ⟨other, otherMember, inOther⟩ := mem_batch_columns.mp inBatch
        exact columnless other otherMember (namesColumn_iff.mpr (List.ne_nil_of_mem inOther))
      have noColumn : (inspectStatements [statement]).columns = [] := by
        by_contra nonempty
        exact columnless statement member (namesColumn_iff.mpr nonempty)
      rw [noColumn, mem_touchedCells_of_noColumns] at touched
      rw [noColumns, mem_touchedCells_of_noColumns]
      exact ⟨mem_batch_objects.mpr ⟨statement, member, touched.1⟩, touched.2⟩
    · have someColumn := namesColumn_iff.mp (columned statement member)
      have someColumns : (inspectStatements statements).columns ≠ [] := by
        obtain ⟨column, inColumns⟩ := List.exists_mem_of_ne_nil _ someColumn
        exact List.ne_nil_of_mem (mem_batch_columns.mpr ⟨statement, member, inColumns⟩)
      rw [mem_touchedCells someColumn] at touched
      rw [mem_touchedCells someColumns]
      exact ⟨mem_batch_objects.mpr ⟨statement, member, touched.1⟩,
        mem_batch_columns.mpr ⟨statement, member, touched.2⟩⟩

/-! ## Policies that tell mixed batches apart -/

/-- Whatever has an object is allowed. -/
def objectsOnly : PolicyDocument where
  rules := [{ objectPattern := some starSentinel }]

/-- Whatever has a column is allowed. -/
def columnsOnly : PolicyDocument where
  rules := [{ columnPattern := some starSentinel }]

theorem evaluateCell_objectsOnly
    (principal : Principal)
    (action : Action)
    (object column : String) :
    (evaluateCell objectsOnly principal action object column).decision = .allow ↔
      object ≠ "" := by
  have anyName := globMatch_of_globMatch_star (by decide : globMatch starSentinel
    starSentinel = true) object
  by_cases unnamed : object = ""
  · simp [evaluateCell, objectsOnly, ruleMatches, ruleApplies, patternAdmits, unnamed]
  · simp [evaluateCell, objectsOnly, ruleMatches, ruleApplies, patternAdmits, unnamed,
      principalHasAnyScope, actionMatches, anyName]

theorem evaluateCell_columnsOnly
    (principal : Principal)
    (action : Action)
    (object column : String) :
    (evaluateCell columnsOnly principal action object column).decision = .allow ↔
      column ≠ "" := by
  have anyName := globMatch_of_globMatch_star (by decide : globMatch starSentinel
    starSentinel = true) column
  by_cases unnamed : column = ""
  · simp [evaluateCell, columnsOnly, ruleMatches, patternAdmits, unnamed]
  · simp [evaluateCell, columnsOnly, ruleMatches, ruleApplies, patternAdmits, unnamed,
      principalHasAnyScope, actionMatches, anyName]

/-- No policy allows a batch and denies one of its statements alone. -/
def LaundersNothing (statements : List Statement) : Prop :=
  ∀ doc principal,
    (evaluatePolicy doc principal (inspectStatements statements)).decision = .allow →
      ∀ statement ∈ statements,
        (evaluatePolicy doc principal (inspectStatements [statement])).decision = .allow

/-- If some statement of such a batch names an object, all do. -/
theorem LaundersNothing.namesObject
    {other : Statement}
    (launders : LaundersNothing statements)
    (otherMember : other ∈ statements)
    (named : NamesObject other)
    (member : statement ∈ statements) :
    NamesObject statement := by
  by_contra nameless
  have noObject : (inspectStatements [statement]).objects = [] := by
    by_contra nonempty
    exact nameless (namesObject_iff.mpr nonempty)
  obtain ⟨object, inOther⟩ := List.exists_mem_of_ne_nil _ (namesObject_iff.mp named)
  have nonempty : (inspectStatements statements).objects ≠ [] :=
    List.ne_nil_of_mem (mem_batch_objects.mpr ⟨other, otherMember, inOther⟩)
  have allowed := launders objectsOnly {} ?_ statement member
  · rw [evaluatePolicy_of_noObjects noObject, evaluateCell_objectsOnly] at allowed
    exact allowed rfl
  · rw [evaluatePolicy_allow_iff nonempty]
    intro cell touched
    exact (evaluateCell_objectsOnly _ _ _ _).mpr
      (object_ne_empty (fst_mem_of_mem_touchedCells touched))

/-- If some statement of such a batch names objects and another a column, the first
names a column, too. -/
theorem LaundersNothing.namesColumn
    {other : Statement}
    (launders : LaundersNothing statements)
    (otherMember : other ∈ statements)
    (columned : NamesColumn other)
    (member : statement ∈ statements)
    (named : NamesObject statement) :
    NamesColumn statement := by
  by_contra columnless
  have noColumn : (inspectStatements [statement]).columns = [] := by
    by_contra nonempty
    exact columnless (namesColumn_iff.mpr nonempty)
  have nonempty := namesObject_iff.mp named
  obtain ⟨object, inStatement⟩ := List.exists_mem_of_ne_nil _ nonempty
  obtain ⟨column, inOther⟩ := List.exists_mem_of_ne_nil _ (namesColumn_iff.mp columned)
  have batchNonempty : (inspectStatements statements).objects ≠ [] :=
    List.ne_nil_of_mem (mem_batch_objects.mpr ⟨statement, member, inStatement⟩)
  have someColumns : (inspectStatements statements).columns ≠ [] :=
    List.ne_nil_of_mem (mem_batch_columns.mpr ⟨other, otherMember, inOther⟩)
  have allowed := launders columnsOnly {} ?_ statement member
  · rw [evaluatePolicy_allow_iff nonempty, noColumn] at allowed
    have cell := allowed (object, "") (mem_touchedCells_of_noColumns.mpr ⟨inStatement, rfl⟩)
    exact (evaluateCell_columnsOnly _ _ _ _).mp cell rfl
  · rw [evaluatePolicy_allow_iff batchNonempty]
    rintro ⟨object, column⟩ touched
    have inColumns := ((mem_touchedCells someColumns).mp touched).2
    exact (evaluateCell_columnsOnly _ _ _ _).mpr (column_ne_empty inColumns)

/-- An accepted batch launders nothing, whatever the policy and the principal, exactly
if its statements are alike. -/
theorem laundersNothing_iff
    (statements : List Statement)
    (safe : (inspectStatements statements).isUnsafe = false) :
    LaundersNothing statements ↔ Uniform statements := by
  have accepted := accepted_of_isUnsafe_eq_false safe
  constructor
  · intro launders
    by_cases nameless : ∀ statement ∈ statements, ¬NamesObject statement
    · exact .inl nameless
    · push Not at nameless
      obtain ⟨namer, namerMember, names⟩ := nameless
      have named : ∀ statement ∈ statements, NamesObject statement :=
        fun statement member => launders.namesObject namerMember names member
      refine .inr ⟨named, ?_⟩
      by_cases columnless : ∀ statement ∈ statements, ¬NamesColumn statement
      · exact .inl columnless
      · push Not at columnless
        obtain ⟨other, otherMember, columned⟩ := columnless
        exact .inr fun statement member =>
          launders.namesColumn otherMember columned member (named statement member)
  · intro uniform doc principal allowed statement member
    exact uniform.allows accepted allowed member

/-! ## A batch of two -/

/-- `SELECT id FROM orders`. -/
def readsOrders : Statement :=
  .select (.node [] [] (plainSelect "id" (plainTable "orders")))

/-- `SELECT 1 FROM payroll`. -/
def countsPayroll : Statement :=
  .select (.node [] [] (.select (plainTable "payroll") [.constant "1"] .null .null .null []))

/-- Columns called `id` may be read. -/
def idPolicy : PolicyDocument where
  rules := [{ actions := [.scan], columnPattern := some "id" }]

/-- In a batch with the first statement, the second is allowed. -/
theorem batch_launders :
    (inspectStatements [readsOrders, countsPayroll]).isUnsafe = false ∧
      ¬LaundersNothing [readsOrders, countsPayroll] := by
  refine ⟨by decide, fun launders => ?_⟩
  have alone := launders idPolicy {} (by decide) countsPayroll (by simp)
  exact absurd alone (by decide)

theorem laundersNothing_iff_sample :
    LaundersNothing [readsOrders, readsThroughAlias] ↔
      Uniform [readsOrders, readsThroughAlias] :=
  laundersNothing_iff [readsOrders, readsThroughAlias] (by decide)

end Sql
end QuackOauth
