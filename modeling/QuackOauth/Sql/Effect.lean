import QuackOauth.Lib.Distinct
import QuackOauth.Sql.Tree

/-!
# What events do to a request

Each event may surface an object, surface a column, or refuse the request.  A request
that events were applied to has exactly the objects and columns that some event
surfaces, and is refused exactly if some event refuses it.
-/

namespace QuackOauth
namespace Sql

open Policy Lib Distinct

/-- Whether the verb of a request admits a data-modifying node. -/
def WriteKind.admittedBy (action : Action) : WriteKind → Bool
  | .update => action = .update
  | .delete => action = .delete
  | .insert => action = .insert
  | .merge onlyUpdates => action = .update && onlyUpdates
  | .copy => action = .copyTo

/-- The reason to refuse a data-modifying node. -/
def WriteKind.message : WriteKind → String
  | .update => "UPDATE hidden in query"
  | .delete => "DELETE hidden in query"
  | .insert => "INSERT hidden in query"
  | .merge _ => "MERGE hidden in query"
  | .copy => "COPY hidden in query"

/-- What an event does to the request. -/
def Event.apply : Event → AuthzRequest → AuthzRequest
  | .refuse message, req => flagUnsafe message req
  | .unnamedTableFunction, req =>
      { req with isUnsafe := true, error := "unnamed table function" }
  | .object target, req => addObject target req
  | .namedObject name, req => addNamedObject name req
  | .function name, req => addFunctionObject name req
  | .column names, req => addColumnRef names req
  | .star, req => addColumn "*" req
  | .write kind, req =>
      if kind.admittedBy req.action then req else flagUnsafe kind.message req

/-- What events do to the request, one after the other. -/
def applyEvents (happened : List Event) (req : AuthzRequest) : AuthzRequest :=
  happened.foldl (fun req event => event.apply req) req

/-! ## Objects, columns and refusals -/

/-- A table as the policy sees it. -/
def objectName (target : QualifiedName) : String :=
  schemaOf target ++ "." ++ lowerAscii target.name

/-- A schema of the system. -/
def isSystemSchema (sch : String) : Bool :=
  sch = "information_schema" || sch = "pg_catalog"

/-- The view that may be read without being surfaced. -/
def isExemptView (target : QualifiedName) : Bool :=
  isAllowedSystemView (schemaOf target) (lowerAscii target.name)

/-- The object that a name surfaces. -/
def objectOf (target : QualifiedName) : Option String :=
  if target.name = "" then none
  else if isSystemSchema (schemaOf target) then none
  else if schemaOf target = "main" ∧
      looksLikeUnqualifiedSystemView (lowerAscii target.name) = true then none
  else some (objectName target)

/-- Whether a name is a reason to refuse. -/
def refusesName (target : QualifiedName) : Bool :=
  target.name ≠ "" &&
    (target.catalog ≠ "" || isSystemSchema (schemaOf target) && !isExemptView target ||
      schemaOf target = "main" &&
        looksLikeUnqualifiedSystemView (lowerAscii target.name))

/-- A table function as the policy sees it. -/
def functionObject (name : String) : String :=
  "fn:" ++ lowerAscii (if name = "" then "?" else name)

/-- The object that a table function surfaces. -/
def functionObjectOf (name : String) : Option String :=
  if isExemptFunction (lowerAscii (if name = "" then "?" else name)) then none
  else some (functionObject name)

/-- The column that a name surfaces. -/
def columnOf (col : String) : Option String :=
  if col = "" then none else some (lowerAscii col)

namespace Event

/-- The object that an event surfaces. -/
def surfacedObject : Event → Option String
  | .object target => objectOf target
  | .namedObject name => some name
  | .function name => functionObjectOf name
  | _ => none

/-- The column that an event surfaces. -/
def surfacedColumn : Event → Option String
  | .column names => names.getLast?.bind columnOf
  | .star => some "*"
  | _ => none

/-- Whether an event refuses a request with the given verb. -/
def refuses (action : Action) : Event → Bool
  | .refuse _ => true
  | .unnamedTableFunction => true
  | .object target => refusesName target
  | .write kind => !kind.admittedBy action
  | _ => false

end Event

/-! ## One change -/

section Changes

variable (req : AuthzRequest)

@[simp] theorem flagUnsafe_action (message : String) :
    (flagUnsafe message req).action = req.action := rfl

@[simp] theorem flagUnsafe_objects (message : String) :
    (flagUnsafe message req).objects = req.objects := rfl

@[simp] theorem flagUnsafe_columns (message : String) :
    (flagUnsafe message req).columns = req.columns := rfl

@[simp] theorem flagUnsafe_isUnsafe (message : String) :
    (flagUnsafe message req).isUnsafe = true := rfl

@[simp] theorem addNamedObject_action (object : String) :
    (addNamedObject object req).action = req.action := by
  unfold addNamedObject
  split_ifs <;> rfl

@[simp] theorem addNamedObject_columns (object : String) :
    (addNamedObject object req).columns = req.columns := by
  unfold addNamedObject
  split_ifs <;> rfl

@[simp] theorem addNamedObject_isUnsafe (object : String) :
    (addNamedObject object req).isUnsafe = req.isUnsafe := by
  unfold addNamedObject
  split_ifs <;> rfl

theorem addNamedObject_objects (name : String) :
    (addNamedObject name req).objects = extend req.objects [name] := by
  unfold addNamedObject
  rw [extend_singleton]
  split_ifs <;> rfl

@[simp] theorem addColumn_action (col : String) :
    (addColumn col req).action = req.action := by
  unfold addColumn
  dsimp only
  split_ifs <;> rfl

@[simp] theorem addColumn_objects (col : String) :
    (addColumn col req).objects = req.objects := by
  unfold addColumn
  dsimp only
  split_ifs <;> rfl

@[simp] theorem addColumn_isUnsafe (col : String) :
    (addColumn col req).isUnsafe = req.isUnsafe := by
  unfold addColumn
  dsimp only
  split_ifs <;> rfl

theorem addColumn_columns (col : String) :
    (addColumn col req).columns = extend req.columns (columnOf col).toList := by
  unfold addColumn columnOf
  dsimp only
  split_ifs with unnamed known
  · rfl
  · rw [Option.toList_some, extend_singleton, if_pos known]
  · rw [Option.toList_some, extend_singleton, if_neg known]

@[simp] theorem addColumnRef_action (names : List String) :
    (addColumnRef names req).action = req.action := by
  unfold addColumnRef
  split <;> simp

@[simp] theorem addColumnRef_objects (names : List String) :
    (addColumnRef names req).objects = req.objects := by
  unfold addColumnRef
  split <;> simp

@[simp] theorem addColumnRef_isUnsafe (names : List String) :
    (addColumnRef names req).isUnsafe = req.isUnsafe := by
  unfold addColumnRef
  split <;> simp

theorem addColumnRef_columns (names : List String) :
    (addColumnRef names req).columns =
      extend req.columns (names.getLast?.bind columnOf).toList := by
  unfold addColumnRef
  cases names.getLast? with
  | none => rfl
  | some name => exact addColumn_columns req name

@[simp] theorem addObject_action (target : QualifiedName) :
    (addObject target req).action = req.action := by
  unfold addObject
  dsimp only
  split_ifs <;> simp

@[simp] theorem addObject_columns (target : QualifiedName) :
    (addObject target req).columns = req.columns := by
  unfold addObject
  dsimp only
  split_ifs <;> simp

theorem schemaOf_ne_main_of_isSystemSchema
    {target : QualifiedName}
    (system : isSystemSchema (schemaOf target) = true) :
    schemaOf target ≠ "main" := by
  intro isMain
  rw [isMain] at system
  exact absurd system (by decide)

/-- Surfacing a name, by the schema that it is in. -/
theorem addObject_cases {target : QualifiedName} (named : target.name ≠ "") :
    let base := if target.catalog ≠ "" then flagUnsafe "catalog-qualified object" req else req
    addObject target req =
      if isSystemSchema (schemaOf target) then
        if isExemptView target then base
        else flagUnsafe "system view is not allowlisted" base
      else if schemaOf target = "main" ∧
          looksLikeUnqualifiedSystemView (lowerAscii target.name) = true then
        flagUnsafe "unqualified system view is not allowlisted" base
      else addNamedObject (objectName target) base := by
  unfold addObject
  rw [if_neg named]
  simp only [isSystemSchema, isExemptView, objectName, Bool.or_eq_true, decide_eq_true_eq]
  split_ifs <;> rfl

theorem addObject_isUnsafe (target : QualifiedName) :
    (addObject target req).isUnsafe = (req.isUnsafe || refusesName target) := by
  by_cases named : target.name = ""
  · simp [addObject, refusesName, named]
  · rw [addObject_cases req named, refusesName]
    by_cases system : isSystemSchema (schemaOf target) = true
    · have notMain := schemaOf_ne_main_of_isSystemSchema system
      split_ifs <;> simp [*]
    · split_ifs <;> simp [*]

theorem addObject_objects (target : QualifiedName) :
    (addObject target req).objects = extend req.objects (objectOf target).toList := by
  by_cases named : target.name = ""
  · simp [addObject, objectOf, named]
  · rw [addObject_cases req named, objectOf, if_neg named]
    split_ifs <;> simp [addNamedObject_objects]

@[simp] theorem addFunctionObject_action (name : String) :
    (addFunctionObject name req).action = req.action := by
  unfold addFunctionObject
  dsimp only
  split_ifs <;> simp

@[simp] theorem addFunctionObject_columns (name : String) :
    (addFunctionObject name req).columns = req.columns := by
  unfold addFunctionObject
  dsimp only
  split_ifs <;> simp

@[simp] theorem addFunctionObject_isUnsafe (name : String) :
    (addFunctionObject name req).isUnsafe = req.isUnsafe := by
  unfold addFunctionObject
  dsimp only
  split_ifs <;> simp

theorem addFunctionObject_objects (name : String) :
    (addFunctionObject name req).objects =
      extend req.objects (functionObjectOf name).toList := by
  unfold addFunctionObject functionObjectOf functionObject
  generalize lowerAscii (if name = "" then "?" else name) = lowered
  dsimp only
  split_ifs
  · rfl
  · exact addNamedObject_objects req _

end Changes

/-! ## One event -/

section OneEvent

variable (event : Event) (req : AuthzRequest)

@[simp] theorem Event.apply_action : (event.apply req).action = req.action := by
  cases event with
  | write kind =>
      simp only [Event.apply]
      split_ifs <;> rfl
  | refuse message => rfl
  | unnamedTableFunction => rfl
  | object target => exact addObject_action req target
  | namedObject name => exact addNamedObject_action req name
  | function name => exact addFunctionObject_action req name
  | column names => exact addColumnRef_action req names
  | star => exact addColumn_action req "*"

theorem Event.apply_isUnsafe :
    (event.apply req).isUnsafe = (req.isUnsafe || event.refuses req.action) := by
  cases event with
  | write kind =>
      simp only [Event.apply, Event.refuses]
      split_ifs with admitted <;> simp [admitted]
  | object target => exact addObject_isUnsafe req target
  | _ => simp [Event.apply, Event.refuses]

theorem Event.apply_objects :
    (event.apply req).objects = extend req.objects event.surfacedObject.toList := by
  cases event with
  | write kind =>
      simp only [Event.apply, Event.surfacedObject]
      split_ifs <;> rfl
  | object target => exact addObject_objects req target
  | namedObject name => exact addNamedObject_objects req name
  | function name => exact addFunctionObject_objects req name
  | _ => simp [Event.apply, Event.surfacedObject]

theorem Event.apply_columns :
    (event.apply req).columns = extend req.columns event.surfacedColumn.toList := by
  cases event with
  | write kind =>
      simp only [Event.apply, Event.surfacedColumn]
      split_ifs <;> rfl
  | column names => exact addColumnRef_columns req names
  | star => exact addColumn_columns req "*"
  | _ => simp [Event.apply, Event.surfacedColumn]

end OneEvent

/-! ## Events in a row -/

section Events

variable {happened : List Event} {req : AuthzRequest}

theorem applyEvents_append {later : List Event} :
    applyEvents (happened ++ later) req = applyEvents later (applyEvents happened req) :=
  List.foldl_append

@[simp] theorem applyEvents_action : (applyEvents happened req).action = req.action := by
  induction happened generalizing req with
  | nil => rfl
  | cons event rest inductionHypothesis =>
      rw [applyEvents, List.foldl_cons, ← applyEvents, inductionHypothesis,
        Event.apply_action]

/-- A request is refused if it was, or if some event refuses it. -/
theorem isUnsafe_applyEvents :
    (applyEvents happened req).isUnsafe = true ↔
      req.isUnsafe = true ∨ ∃ event ∈ happened, event.refuses req.action = true := by
  induction happened generalizing req with
  | nil => simp [applyEvents]
  | cons event rest inductionHypothesis =>
      rw [applyEvents, List.foldl_cons, ← applyEvents, inductionHypothesis,
        Event.apply_isUnsafe, Event.apply_action]
      simp [or_assoc]

/-- A list of a request that each event extends by what it surfaces, events extend by
what they surface, in order. -/
theorem applyEvents_extend
    {listed : AuthzRequest → List String}
    {surfaced : Event → Option String}
    (extends_ : ∀ (event : Event) req,
      listed (event.apply req) = extend (listed req) (surfaced event).toList) :
    listed (applyEvents happened req) = extend (listed req) (happened.filterMap surfaced) := by
  induction happened generalizing req with
  | nil => rfl
  | cons event rest inductionHypothesis =>
      rw [applyEvents, List.foldl_cons, ← applyEvents, inductionHypothesis, extends_,
        ← extend_append]
      cases isSurfaced : surfaced event with
      | none => rw [List.filterMap_cons_none isSurfaced]; rfl
      | some name => rw [List.filterMap_cons_some isSurfaced]; rfl

/-- The objects that events surface follow those that a request had, each once. -/
theorem applyEvents_objects :
    (applyEvents happened req).objects =
      extend req.objects (happened.filterMap Event.surfacedObject) :=
  applyEvents_extend Event.apply_objects

/-- The columns that events surface follow those that a request had, each once. -/
theorem applyEvents_columns :
    (applyEvents happened req).columns =
      extend req.columns (happened.filterMap Event.surfacedColumn) :=
  applyEvents_extend Event.apply_columns

/-- A request has the objects that it had, and those that some event surfaces. -/
theorem mem_applyEvents_objects {object : String} :
    object ∈ (applyEvents happened req).objects ↔
      object ∈ req.objects ∨ ∃ event ∈ happened, event.surfacedObject = some object := by
  rw [applyEvents_objects, mem_extend, List.mem_filterMap]

/-- A request has the columns that it had, and those that some event surfaces. -/
theorem mem_applyEvents_columns {column : String} :
    column ∈ (applyEvents happened req).columns ↔
      column ∈ req.columns ∨ ∃ event ∈ happened, event.surfacedColumn = some column := by
  rw [applyEvents_columns, mem_extend, List.mem_filterMap]

end Events

/-! ## Names that are not refused -/

theorem lowerAscii_ne_empty
    {name : String}
    (nonempty : name ≠ "") :
    lowerAscii name ≠ "" := by
  intro empty
  have chars := congrArg String.toList empty
  simp [lowerAscii] at chars
  exact nonempty chars

/-- A table that is neither refused nor exempt is surfaced under its name. -/
theorem objectOf_eq
    {target : QualifiedName}
    (named : target.name ≠ "")
    (admitted : refusesName target = false)
    (gated : isExemptView target = false) :
    objectOf target = some (objectName target) := by
  unfold objectOf
  simp [refusesName, named, gated] at admitted
  simp [named]
  tauto

end Sql
end QuackOauth
