import QuackOauth.Sql.Contribution
import QuackOauth.Sql.Refine

/-!
# Inspection follows the lexical reading

The request that parsed statements turn into is the empty request of the verb of the
first statement, changed by the events of all statements.  Each statement is read in
an empty scope.
-/

namespace QuackOauth
namespace Sql

open Policy

/-! ## Statements -/

theorem walkColumn_eq (column : ColumnDefinition) (ctx : WalkCtx) :
    walkColumn column ctx = ctx.emit (events ctx.cteNames (.column column)) := by
  cases column with
  | plain => simp [walkColumn, events_eq]
  | generated expression =>
      rw [walkColumn, events_eq, walkExpression_eq]
      simp [exprParts]
  | withDefault expression =>
      rw [walkColumn, events_eq, walkExpression_eq]
      simp [exprParts]

theorem walkConstraint_eq (constraint : Constraint) (ctx : WalkCtx) :
    walkConstraint constraint ctx =
      ctx.emit (events ctx.cteNames (.constraint constraint)) := by
  cases constraint with
  | check expression =>
      rw [walkConstraint, events_eq, walkExpression_eq]
      simp
  | _ => simp [walkConstraint, events_eq]

theorem walkAlterKind_eq (kind : AlterKind) (ctx : WalkCtx) :
    walkAlterKind kind ctx = ctx.emit (events ctx.cteNames (.alterKind kind)) := by
  cases kind with
  | alterColumnType expression =>
      rw [walkAlterKind, events_eq, walkExpression_eq]
      simp
  | setDefault expression =>
      rw [walkAlterKind, events_eq, walkExpression_eq]
      simp [exprParts]
  | addColumn column =>
      rw [walkAlterKind, events_eq, walkColumn_eq]
      simp
  | _ => simp [walkAlterKind, events_eq]

theorem inCteScope_eq
    (ctx : WalkCtx)
    {cteMap : List Cte}
    {walk : WalkCtx → WalkCtx}
    {node : Node}
    (walked : ∀ ctx, walk ctx = ctx.emit (events ctx.cteNames node)) :
    inCteScope cteMap walk ctx =
      ctx.emit (syntaxTree.partsYield
        (cteParts ctx.cteNames cteMap ++
          [.visit (bindCtes cteMap ctx.cteNames, node)])) := by
  rw [inCteScope, walkCtes_eq, enterCtes, walked]
  simp [WalkCtx.onScope_emit]
  exact resize_bindCtes _ rfl

theorem foldl_eq_emit
    (ctx : WalkCtx)
    {Element : Type}
    {walk : Element → WalkCtx → WalkCtx}
    {wrap : Element → Node}
    (walked : ∀ element ctx, walk element ctx = ctx.emit (events ctx.cteNames (wrap element)))
    (elements : List Element) :
    elements.foldl (fun ctx element => walk element ctx) ctx =
      ctx.emit (syntaxTree.partsYield
        (elements.map fun element => .visit (ctx.cteNames, wrap element))) := by
  induction elements generalizing ctx with
  | nil => rfl
  | cons element rest inductionHypothesis =>
      rw [List.foldl_cons, inductionHypothesis, walked]
      simp

/-- The verb of a statement. -/
def verb (statement : Statement) : Action :=
  (classifyStatement statement { req := {} }).1

theorem checkSetting_eq (name : String) (isGlobal : Bool) (ctx : WalkCtx) :
    classifyStatement.checkSetting name isGlobal ctx =
      ctx.emit (classifyEvents.settingEvents name isGlobal) := by
  unfold classifyStatement.checkSetting classifyEvents.settingEvents refuseUnless
  dsimp only
  cases isGlobal with
  | false => split_ifs <;> simp_all
  | true => split_ifs <;> simp_all

/-- Classification gives the verb and applies the events of the statement. -/
theorem classifyStatement_eq (statement : Statement) (ctx : WalkCtx) :
    classifyStatement statement ctx =
      (verb statement, ctx.emit (classifyEvents statement)) := by
  cases statement with
  | merge cteMap node =>
      simp only [verb, classifyStatement, classifyEvents, refuseUnless]
      split_ifs <;> simp
  | copy info =>
      cases info with
      | null => simp [verb, classifyStatement, classifyEvents]
      | info target isFrom select filePath options =>
          cases isFrom with
          | false => simp [verb, classifyStatement, classifyEvents]
          | true => simp [verb, classifyStatement, classifyEvents]
  | pragma name parameters namedParameters =>
      simp only [verb, classifyStatement, classifyEvents, refuseUnless]
      split_ifs <;> simp_all
  | set name isGlobal value =>
      simp only [verb, classifyStatement, classifyEvents, checkSetting_eq]
  | reset name isGlobal =>
      simp [verb, classifyStatement, classifyEvents, checkSetting_eq]
  | _ => simp [verb, classifyStatement, classifyEvents]

theorem walkStatement_eq : (statement : Statement) → (ctx : WalkCtx) →
    walkStatement statement ctx = ctx.emit (events ctx.cteNames (.statement statement))
  | .select node, ctx => by
      rw [walkStatement, events_eq, walkQueryNode_eq]
      simp
  | .explain isAnalyze statement, ctx => by
      rw [walkStatement, events_eq]
      simp only [classifyStatement_eq, refuseUnless_eq, walkStatement_eq statement]
      cases isNull : statement.isNull with
      | false => simp [isNull]
      | true => simp [isNull]
  | .insert cteMap node, ctx => by
      rw [walkStatement, events_eq, inCteScope_eq ctx (walkInsert_eq node)]
      rfl
  | .update cteMap node, ctx => by
      rw [walkStatement, events_eq, inCteScope_eq ctx (walkUpdate_eq node)]
      rfl
  | .delete cteMap node, ctx => by
      rw [walkStatement, events_eq, inCteScope_eq ctx (walkDelete_eq node)]
      rfl
  | .merge cteMap node, ctx => by
      rw [walkStatement, events_eq, inCteScope_eq ctx (walkMerge_eq node)]
      rfl
  | .copy info, ctx => by
      rw [walkStatement, events_eq, walkCopyInfo_eq]
      simp
  | .createNull, ctx => by simp [walkStatement, events_eq]
  | .createTable target hasQuery query columns constraints partitionKeys sortKeys
      options, ctx => by
      rw [walkStatement, events_eq]
      simp only [foldl_eq_emit _ walkColumn_eq, foldl_eq_emit _ walkConstraint_eq,
        walkExpressions_eq, walkRequired_eq, walkQueryNode_eq query, WalkCtx.refuse_eq,
        emit_requiredQuery]
      cases hasQuery with
      | false => simp
      | true => simp
  | .createView target query, ctx => by
      rw [walkStatement, events_eq]
      simp only [walkQueryNode_eq, WalkCtx.refuse_eq, emit_requiredQuery]
      simp
  | .createType target query, ctx => by
      rw [walkStatement, events_eq, walkStatement_eq query]
      cases isNull : query.isNull with
      | false => simp [isNull]
      | true => simp [isNull]
  | .createMacro target, ctx => by simp [walkStatement, events_eq]
  | .createSchema target options, ctx => by
      rw [walkStatement, events_eq]
      simp only [walkRequired_eq, refuseUnless_eq]
      split_ifs with unnamed
      · simp [unnamed]
      · simp [unnamed]
  | .createUnsupported, ctx => by simp [walkStatement, events_eq]
  | .createFunction, ctx => by simp [walkStatement, events_eq]
  | .dropNull, ctx => by simp [walkStatement, events_eq]
  | .drop isTableOrView target, ctx => by
      simp [walkStatement, events_eq, walkNamedTarget_eq, refuseUnless_eq]
  | .alterNull, ctx => by simp [walkStatement, events_eq]
  | .alter target kind, ctx => by
      simp [walkStatement, events_eq _ (.statement _), walkNamedTarget_eq, walkAlterKind_eq]
  | .pragmaNull, ctx => by simp [walkStatement, events_eq]
  | .pragma name parameters namedParameters, ctx => by
      simp [walkStatement, events_eq, walkExpressions_eq, walkRequired_eq]
  | .attachNull, ctx => by simp [walkStatement, events_eq]
  | .attach options, ctx => by simp [walkStatement, events_eq, walkRequired_eq]
  | .detachNull, ctx => by simp [walkStatement, events_eq]
  | .detach name, ctx => by
      rw [walkStatement, events_eq]
      split_ifs with unnamed
      · simp [unnamed]
      · simp [unnamed]
  | .set name isGlobal value, ctx => by
      rw [walkStatement, events_eq]
      simp only [walkExpression_eq, refuseUnless_eq]
      cases isNull : value.isNull with
      | false => simp [isNull]
      | true => simp [isNull]
  | .reset name isGlobal, ctx => by simp [walkStatement, events_eq]
  | .load, ctx => by simp [walkStatement, events_eq]
  | .transaction, ctx => by simp [walkStatement, events_eq]
  | .relation, ctx => by simp [walkStatement, events_eq]
  | .null, ctx => by simp [walkStatement, events_eq]
  | .unsupported, ctx => by simp [walkStatement, events_eq]

/-! ## Lists of statements -/

/-- What a statement contributes to a request with a given verb. -/
def statementEvents (action : Action) (statement : Statement) : List Event :=
  if statement.isNull then [.refuse "null statement"]
  else
    classifyEvents statement ++
      (if verb statement = action then [] else [.refuse "mixed statement actions"]) ++
      events [] (.statement statement)

/-- The verb of the first statement that is there; of none, that of an empty request. -/
def leadingVerb (action : Action) : List Statement → Action
  | [] => action
  | statement :: rest =>
      if statement.isNull then leadingVerb action rest else verb statement

/-- Reasons to refuse do not depend on the verb. -/
theorem applyEvents_with_action
    {happened : List Event}
    (refusals : ∀ event ∈ happened, ∃ message, event = .refuse message)
    (action : Action)
    (req : AuthzRequest) :
    applyEvents happened { req with action } =
      { applyEvents happened req with action } := by
  induction happened generalizing req with
  | nil => rfl
  | cons event rest inductionHypothesis =>
      obtain ⟨message, rfl⟩ := refusals event List.mem_cons_self
      exact inductionHypothesis
        (fun event member => refusals event (List.mem_cons_of_mem _ member))
        (flagUnsafe message req)

/-- A statement that is there adds its events; the first one also sets the verb. -/
theorem inspectFrom_cons
    {first : Bool}
    {statement : Statement}
    {rest : List Statement}
    {req : AuthzRequest}
    (notNull : statement.isNull = false) :
    let action := if first then verb statement else req.action
    inspectFrom first (statement :: rest) req =
      inspectFrom false rest
        (applyEvents (statementEvents action statement) { req with action }) := by
  dsimp only
  rw [inspectFrom, if_neg (Bool.eq_false_iff.mp notNull), classifyStatement_eq]
  simp only [walkStatement_eq, statementEvents, notNull, Bool.false_eq_true, if_false]
  cases first with
  | true =>
      -- The verb may be set before classification refuses as well as after.
      have setBefore :
          applyEvents (classifyEvents statement) { req with action := verb statement } =
            { applyEvents (classifyEvents statement) req with action := verb statement } :=
        applyEvents_with_action (fun _ => eq_refuse_of_mem_classifyEvents) _ _
      simp [applyEvents_append, WalkCtx.emit, WalkCtx.onReq, setBefore]
  | false =>
      simp [applyEvents_append, WalkCtx.emit, WalkCtx.onReq, refuseUnless]
      split_ifs with agrees
      · rfl
      · rfl

theorem inspectFrom_false_eq (statements : List Statement) (req : AuthzRequest) :
    inspectFrom false statements req =
      applyEvents (statements.flatMap (statementEvents req.action)) req := by
  induction statements generalizing req with
  | nil => rfl
  | cons statement rest inductionHypothesis =>
      rw [List.flatMap_cons, applyEvents_append]
      cases isNull : statement.isNull with
      | true =>
          rw [inspectFrom, if_pos isNull, inductionHypothesis, flagUnsafe_action,
            statementEvents, if_pos isNull]
          rfl
      | false =>
          rw [inspectFrom_cons isNull, inductionHypothesis]
          simp

theorem inspectFrom_true_eq (statements : List Statement) (req : AuthzRequest) :
    inspectFrom true statements req =
      applyEvents (statements.flatMap (statementEvents (leadingVerb req.action statements)))
        { req with action := leadingVerb req.action statements } := by
  induction statements generalizing req with
  | nil => rfl
  | cons statement rest inductionHypothesis =>
      rw [List.flatMap_cons, applyEvents_append]
      cases isNull : statement.isNull with
      | true =>
          rw [inspectFrom, if_pos isNull, inductionHypothesis, flagUnsafe_action,
            statementEvents, if_pos isNull, leadingVerb, if_pos isNull]
          rfl
      | false =>
          rw [inspectFrom_cons isNull, inspectFrom_false_eq, leadingVerb,
            if_neg (Bool.eq_false_iff.mp isNull)]
          simp

/-- The verb of the request that statements turn into. -/
def requestVerb (statements : List Statement) : Action :=
  leadingVerb .scan statements

/-- What statements contribute to their request. -/
def requestEvents (statements : List Statement) : List Event :=
  statements.flatMap (statementEvents (requestVerb statements))

/-- The request of statements is the empty request of their verb, changed by their
events. -/
theorem inspectStatements_eq (statements : List Statement) :
    inspectStatements statements =
      applyEvents (requestEvents statements) { action := requestVerb statements } :=
  inspectFrom_true_eq statements {}

/-! ## What a request has -/

/-- A node occurs in one of the statements, read in a scope. -/
def OccursIn (statements : List Statement) (scope : Scope) (node : Node) : Prop :=
  ∃ statement ∈ statements, syntaxTree.Occurs ([], .statement statement) (scope, node)

/-- A node that occurs in one of the statements contributes an event. -/
def Emits (statements : List Statement) (event : Event) : Prop :=
  ∃ scope node, OccursIn statements scope node ∧ .emit event ∈ parts scope node

theorem occursIn_of_mem
    {statements : List Statement}
    {statement : Statement}
    (member : statement ∈ statements) :
    OccursIn statements [] (.statement statement) :=
  ⟨statement, member, syntaxTree.occurs_self _⟩

theorem OccursIn.below
    {statements : List Statement}
    {scope childScope : Scope}
    {node child : Node}
    (occurs : OccursIn statements scope node)
    (below : .visit (childScope, child) ∈ parts scope node) :
    OccursIn statements childScope child := by
  obtain ⟨statement, member, occurs⟩ := occurs
  exact ⟨statement, member, occurs.tail below⟩

theorem emits_iff {statements : List Statement} {event : Event} :
    Emits statements event ↔
      ∃ statement ∈ statements, event ∈ events [] (.statement statement) := by
  simp only [events, syntaxTree.mem_yield_iff, syntaxTree_parts, Prod.exists]
  constructor
  · rintro ⟨scope, node, ⟨statement, member, occurs⟩, emitted⟩
    exact ⟨statement, member, scope, node, occurs, emitted⟩
  · rintro ⟨statement, member, scope, node, occurs, emitted⟩
    exact ⟨scope, node, ⟨statement, member, occurs⟩, emitted⟩

/-- An event of a request is contributed by a node or is a reason to refuse. -/
theorem mem_requestEvents
    {statements : List Statement}
    {event : Event}
    (member : event ∈ requestEvents statements) :
    Emits statements event ∨ ∃ message, event = .refuse message := by
  obtain ⟨statement, statementMember, member⟩ := List.mem_flatMap.mp member
  unfold statementEvents at member
  split_ifs at member with isNull
  · exact .inr ⟨_, List.mem_singleton.mp member⟩
  · simp only [List.append_nil, List.mem_append] at member
    rcases member with classified | emitted
    · exact .inr (eq_refuse_of_mem_classifyEvents classified)
    · exact .inl (emits_iff.mpr ⟨statement, statementMember, emitted⟩)
  · simp only [List.mem_append, List.mem_singleton] at member
    rcases member with (classified | mixed) | emitted
    · exact .inr (eq_refuse_of_mem_classifyEvents classified)
    · exact .inr ⟨_, mixed⟩
    · exact .inl (emits_iff.mpr ⟨statement, statementMember, emitted⟩)

/-- A statement that is null only gives a reason to refuse. -/
theorem eq_refuse_of_isNull
    {statement : Statement}
    {event : Event}
    (isNull : statement.isNull = true)
    (member : event ∈ events [] (.statement statement)) :
    ∃ message, event = .refuse message := by
  cases statement with
  | null =>
      rw [events_eq] at member
      exact ⟨_, List.mem_singleton.mp (by simpa using member)⟩
  | _ => cases isNull

/-- A request has every event that nodes contribute, reasons to refuse apart. -/
theorem Emits.mem_requestEvents
    {statements : List Statement}
    {event : Event}
    (emits : Emits statements event)
    (notRefusal : ∀ message, event ≠ .refuse message) :
    event ∈ requestEvents statements := by
  obtain ⟨statement, statementMember, member⟩ := emits_iff.mp emits
  refine List.mem_flatMap.mpr ⟨statement, statementMember, ?_⟩
  unfold statementEvents
  split_ifs with isNull
  · obtain ⟨message, refusal⟩ := eq_refuse_of_isNull isNull member
    exact absurd refusal (notRefusal message)
  · exact List.mem_append_right _ member
  · exact List.mem_append_right _ member

/-- What the events of a request surface is what its nodes surface. -/
theorem exists_mem_requestEvents_iff
    {statements : List Statement}
    {surfaced : Event → Option String}
    {name : String}
    (refusal : ∀ message, surfaced (.refuse message) = none) :
    (∃ event ∈ requestEvents statements, surfaced event = some name) ↔
      ∃ event, Emits statements event ∧ surfaced event = some name := by
  constructor
  · rintro ⟨event, member, isSurfaced⟩
    rcases mem_requestEvents member with emits | ⟨message, rfl⟩
    · exact ⟨event, emits, isSurfaced⟩
    · rw [refusal] at isSurfaced
      cases isSurfaced
  · rintro ⟨event, emits, isSurfaced⟩
    refine ⟨event, emits.mem_requestEvents ?_, isSurfaced⟩
    rintro message rfl
    rw [refusal] at isSurfaced
    cases isSurfaced

/-- The objects of a request are those that the nodes of its statements surface. -/
theorem mem_objects_iff {statements : List Statement} {object : String} :
    object ∈ (inspectStatements statements).objects ↔
      ∃ event, Emits statements event ∧ event.surfacedObject = some object := by
  rw [inspectStatements_eq, mem_applyEvents_objects,
    exists_mem_requestEvents_iff fun _ => rfl]
  simp

/-- The columns of a request are those that the nodes of its statements surface. -/
theorem mem_columns_iff {statements : List Statement} {column : String} :
    column ∈ (inspectStatements statements).columns ↔
      ∃ event, Emits statements event ∧ event.surfacedColumn = some column := by
  rw [inspectStatements_eq, mem_applyEvents_columns,
    exists_mem_requestEvents_iff fun _ => rfl]
  simp

@[simp] theorem inspectStatements_action (statements : List Statement) :
    (inspectStatements statements).action = requestVerb statements := by
  rw [inspectStatements_eq, applyEvents_action]

section Admitted

variable {statements : List Statement} {statement : Statement} {action : Action}

/-- A request with a given verb is not refused for a statement. -/
def AdmittedUnder (action : Action) (statement : Statement) : Prop :=
  ∀ event ∈ statementEvents action statement, event.refuses action = false

theorem AdmittedUnder.notNull (admitted : AdmittedUnder action statement) :
    statement.isNull = false := by
  by_contra isNull
  rw [Bool.not_eq_false] at isNull
  have refused := admitted (.refuse "null statement") (by simp [statementEvents, isNull])
  exact absurd refused (by simp [Event.refuses])

theorem AdmittedUnder.verb_eq (admitted : AdmittedUnder action statement) :
    verb statement = action := by
  by_contra mixed
  have refused := admitted (.refuse "mixed statement actions")
    (by simp [statementEvents, admitted.notNull, mixed])
  exact absurd refused (by simp [Event.refuses])

theorem isUnsafe_eq_false_iff :
    (inspectStatements statements).isUnsafe = false ↔
      ∀ statement ∈ statements, AdmittedUnder (requestVerb statements) statement := by
  rw [inspectStatements_eq, Bool.eq_false_iff, ne_eq, isUnsafe_applyEvents]
  constructor
  · intro admitted statement member event happens
    apply Bool.eq_false_iff.mpr
    intro refuses
    exact admitted (.inr ⟨event, List.mem_flatMap.mpr ⟨statement, member, happens⟩, refuses⟩)
  · rintro admitted (initial | ⟨event, happens, refuses⟩)
    · cases initial
    · obtain ⟨statement, member, happens⟩ := List.mem_flatMap.mp happens
      rw [admitted statement member event happens] at refuses
      cases refuses

end Admitted

/-- The statements of a request that is not refused are all there, have one verb, and
have nothing that refuses it. -/
structure Accepted (statements : List Statement) : Prop where
  notNull : ∀ statement ∈ statements, statement.isNull = false
  sameVerb : ∀ statement ∈ statements, verb statement = requestVerb statements
  classified : ∀ statement ∈ statements, classifyEvents statement = []
  admitted : ∀ event, Emits statements event →
    event.refuses (requestVerb statements) = false

/-- A request that is not refused has nothing that refuses it. -/
theorem accepted_of_isUnsafe_eq_false
    {statements : List Statement}
    (safe : (inspectStatements statements).isUnsafe = false) :
    Accepted statements := by
  have admitted := isUnsafe_eq_false_iff.mp safe
  have notNull (statement : Statement) (member : statement ∈ statements) :
      statement.isNull = false :=
    (admitted statement member).notNull
  constructor
  case notNull => exact notNull
  case sameVerb =>
    intro statement member
    exact (admitted statement member).verb_eq
  case classified =>
    intro statement member
    apply List.eq_nil_iff_forall_not_mem.mpr
    intro event classified
    obtain ⟨message, rfl⟩ := eq_refuse_of_mem_classifyEvents classified
    have refused := admitted statement member (.refuse message)
      (by simp [statementEvents, notNull statement member, classified])
    exact absurd refused (by simp [Event.refuses])
  case admitted =>
    intro event emits
    obtain ⟨statement, member, happens⟩ := emits_iff.mp emits
    apply admitted statement member
    simp [statementEvents, notNull statement member, happens]

/-- A node of an accepted request gives no reason to refuse it. -/
theorem Accepted.no_refusal
    {statements : List Statement}
    {scope : Scope}
    {node : Node}
    (accepted : Accepted statements)
    (occurs : OccursIn statements scope node)
    (message : String) :
    .emit (.refuse message) ∉ parts scope node := by
  intro emitted
  have refused := accepted.admitted (.refuse message) ⟨scope, node, occurs, emitted⟩
  exact absurd refused (by simp [Event.refuses])

end Sql
end QuackOauth
