import Mathlib.Data.Int.ConditionallyCompleteOrder
import Mathlib.Data.List.ReduceOption
import Mathlib.Order.WithBot
import QuackOauth.Lib.Ranked
import QuackOauth.Policy.Evaluate
import QuackOauth.Sql.Surface

/-!
# Policies from a table

The loader reads a policy out of the rows of a table, through a query whose result
it takes apart by position.  Evaluated, the policy should decide each cell as the rows
say: the first row of which every stated condition holds decides.  The loader drops
the NULL elements of a list, though, and a list of nothing else is left empty, which
the evaluation reads as no condition at all.
-/

namespace QuackOauth
namespace Policy

open Lib

/-- The action of a name. -/
def actionFromString (s : String) : Option Action :=
  match s with
  | "Attach" => some .attach
  | "Scan" => some .scan
  | "CopyTo" => some .copyTo
  | "CopyFrom" => some .copyFrom
  | "ServeAdmin" => some .serveAdmin
  | "Insert" => some .insert
  | "Update" => some .update
  | "Delete" => some .delete
  | "Ddl" => some .ddl
  | "Pragma" => some .pragma
  | _ => none

/-! ## Tables and queries -/

/-- A value in a row of a result. -/
inductive Value
  | null
  | integer (value : Int)
  | boolean (value : Bool)
  | varchar (value : String)
  | varcharList (children : List (Option String))
  deriving DecidableEq, Repr

/-- A row of a policy table, in the columns that the loader knows.  NULL is none,
and a priority of NULL sorts last. -/
structure PolicyRow where
  priority : WithTop Int
  subject : Option String := none
  anyScope : Option (List (Option String)) := none
  actions : Option (List (Option String)) := none
  objectPattern : Option String := none
  columnPattern : Option String := none
  allow : Option Bool := some true
  deriving DecidableEq

/-- The value of a row in a column. -/
def PolicyRow.value (row : PolicyRow) (column : String) : Value :=
  match column with
  | "priority" => row.priority.elim .null .integer
  | "subject" => row.subject.elim .null .varchar
  | "any_scope" => row.anyScope.elim .null .varcharList
  | "actions" => row.actions.elim .null .varcharList
  | "object_pattern" => row.objectPattern.elim .null .varchar
  | "column_pattern" => row.columnPattern.elim .null .varchar
  | "allow" => row.allow.elim .null .boolean
  | _ => .null

/-- A table: its columns, in the catalog's order, and its rows.  What a row has for a
column that the table lacks is never read. -/
structure PolicyTable where
  columns : List String
  rows : List PolicyRow

/-- Whether a table has a column, whose name is not sensitive to case. -/
def PolicyTable.hasColumn (table : PolicyTable) (column : String) : Bool :=
  decide (column ∈ table.columns.map Sql.lowerAscii)

/-- The rows of a table by priority, each with its values in the columns asked for.
The query fails if a column is missing. -/
def PolicyTable.select
    (table : PolicyTable)
    (names : List String) : Option (List (List Value)) :=
  if names.all table.hasColumn then
    some ((table.rows.insertionSort fun row later => row.priority ≤ later.priority).map
      fun row => names.map row.value)
  else none

/-! ## The loader -/

/-- Where the columns of a policy are in its table. -/
structure ColumnLayout where
  priorityIdx : Option Nat := none
  subjectIdx : Option Nat := none
  anyScopeIdx : Option Nat := none
  actionsIdx : Option Nat := none
  objectPatternIdx : Option Nat := none
  columnPatternIdx : Option Nat := none
  allowIdx : Option Nat := none

/-- Note where a column is, if it is one of a policy's. -/
def ColumnLayout.note (layout : ColumnLayout) (column : String × Nat) : ColumnLayout :=
  match column.1 with
  | "priority" => { layout with priorityIdx := some column.2 }
  | "subject" => { layout with subjectIdx := some column.2 }
  | "any_scope" => { layout with anyScopeIdx := some column.2 }
  | "actions" => { layout with actionsIdx := some column.2 }
  | "object_pattern" => { layout with objectPatternIdx := some column.2 }
  | "column_pattern" => { layout with columnPatternIdx := some column.2 }
  | "allow" => { layout with allowIdx := some column.2 }
  | _ => layout

/-- Find the columns of a policy; a priority and a verdict must be among them. -/
def discoverColumns (columns : List String) : Option ColumnLayout :=
  let layout := (columns.map Sql.lowerAscii).zipIdx.foldl ColumnLayout.note {}
  if layout.priorityIdx = none ∨ layout.allowIdx = none then none else some layout

/-- A string, unless NULL. -/
def Value.string? : Value → Option String
  | .varchar value => some value
  | _ => none

/-- The elements of a list that are not NULL. -/
def Value.children : Value → List String
  | .varcharList children => children.reduceOption
  | _ => []

/-- A pattern in lower case; the empty string is none. -/
def normalisePattern (v : Value) : Option String :=
  match v.string? with
  | none => none
  | some s => if s = "" then none else some (Sql.lowerAscii s)

/-- The rule of a row of the result.  There is none if the verdict is NULL or an
action has no such name. -/
def loadRule (objPos colPos : Option Nat) (row : List Value) : Option PolicyRule :=
  match row.getD 4 .null with
  | .boolean allow =>
      ((row.getD 3 .null).children.mapM actionFromString).map fun actions => {
        subject := (row.getD 1 .null).string?
        anyScope := (row.getD 2 .null).children
        actions := actions
        objectPattern := objPos.bind fun pos => normalisePattern (row.getD pos .null)
        columnPattern := colPos.bind fun pos => normalisePattern (row.getD pos .null)
        allow := allow }
  | _ => none

/-- The columns that the loader asks for, in order. -/
def policyQuery (layout : ColumnLayout) : List String :=
  ["priority", "subject", "any_scope", "actions", "allow"] ++
    (if layout.objectPatternIdx.isSome then ["object_pattern"] else []) ++
    if layout.columnPatternIdx.isSome then ["column_pattern"] else []

/-- Load a policy from a table of the database.  The verdict where no rule matches is
set by the caller. -/
def loadPolicyFromTable
    (database : String → Option PolicyTable)
    (qualifiedTable : String) : Option PolicyDocument :=
  if qualifiedTable = "" then none
  else
    match database qualifiedTable with
    | none => none
    | some table =>
        match discoverColumns table.columns with
        | none => none
        | some layout =>
            let objPos := if layout.objectPatternIdx.isSome then some 5 else none
            let colPos :=
              if layout.columnPatternIdx.isSome then
                if objPos.isSome then some 6 else some 5
              else none
            match table.select (policyQuery layout) with
            | none => none
            | some rows => (rows.mapM (loadRule objPos colPos)).map fun rules =>
                { rules := rules }

/-! ## What the rows say -/

/-- A name is in the language of a pattern, whatever the case of its letters. -/
def InPattern (pattern name : String) : Prop :=
  Glob.Matches starByte alikeByte (bytesOf pattern) (bytesOf name)

/-- A condition by pattern: it is absent where the table lacks the column, and if it
is NULL or empty; otherwise the cell has a name, and the name is in the pattern. -/
def PatternHolds (present : Bool) (pattern : Option String) (name : String) : Prop :=
  present = true → ∀ stated, pattern = some stated → stated ≠ "" →
    name ≠ "" ∧ InPattern stated name

/-- A condition by list: it is absent if it is NULL or empty; otherwise one element
is as asked. -/
def ListHolds (list : Option (List (Option String))) (good : String → Prop) : Prop :=
  ∀ stated, list = some stated → stated ≠ [] →
    ∃ element, some element ∈ stated ∧ good element

/-- Every condition that a row of the table states holds. -/
structure RowMatches
    (table : PolicyTable)
    (principal : Principal)
    (action : Action)
    (object column : String)
    (row : PolicyRow) : Prop where
  subject : ∀ stated, row.subject = some stated → stated = principal.subject
  anyScope : ListHolds row.anyScope fun scope => scope ∈ principal.scopes
  actions : ListHolds row.actions fun name => actionFromString name = some action
  objectPattern : PatternHolds (table.hasColumn "object_pattern") row.objectPattern object
  columnPattern : PatternHolds (table.hasColumn "column_pattern") row.columnPattern column

/-- The verdict of a row. -/
def PolicyRow.verdict (row : PolicyRow) : Decision :=
  if row.allow = some true then .allow else .deny

/-- The verdict where no row matches. -/
def defaultVerdict (defaultAllow : Bool) : Decision :=
  if defaultAllow then .allow else .deny

/-- What a table decides on a cell: the verdict of the first row that matches it. -/
def PolicyTable.Decides
    (table : PolicyTable)
    (defaultAllow : Bool)
    (principal : Principal)
    (action : Action)
    (object column : String)
    (decision : Decision) : Prop :=
  Ranked.Decides PolicyRow.priority (RowMatches table principal action object column)
    PolicyRow.verdict (defaultVerdict defaultAllow) table.rows decision

/-! ## Reading a row back -/

/-- The elements of a list of a row that are not NULL. -/
def elements (list : Option (List (Option String))) : List String :=
  (list.getD []).reduceOption

/-- A list as the loader takes it: one with no element but NULL is as good as NULL. -/
def ignoreNulls (list : Option (List (Option String))) : Option (List (Option String)) :=
  list.filter fun stated => stated.reduceOption ≠ []

/-- A row without those of its lists in which there is nothing but NULL. -/
def PolicyRow.ignoringNullLists (row : PolicyRow) : PolicyRow :=
  { row with anyScope := ignoreNulls row.anyScope, actions := ignoreNulls row.actions }

theorem children_elim (list : Option (List (Option String))) :
    (list.elim Value.null .varcharList).children = elements list := by
  cases list <;> rfl

theorem string?_elim (text : Option String) :
    (text.elim Value.null .varchar).string? = text := by
  cases text <;> rfl

/-- Without the lists of NULLs, a list's condition is about its elements. -/
theorem listHolds_ignoreNulls_iff
    {list : Option (List (Option String))}
    {good : String → Prop} :
    ListHolds (ignoreNulls list) good ↔
      elements list = [] ∨ ∃ element ∈ elements list, good element := by
  unfold ListHolds ignoreNulls elements
  cases list with
  | none => simp [List.reduceOption_nil]
  | some stated =>
      by_cases onlyNulls : stated.reduceOption = []
      · simp [onlyNulls]
      · have nonempty : stated ≠ [] := by
          rintro rfl
          exact onlyNulls rfl
        simp [onlyNulls, nonempty, List.reduceOption_mem_iff]

/-- A list's condition is no harder to meet once the lists of NULLs are ignored. -/
theorem listHolds_ignoreNulls
    {list : Option (List (Option String))}
    {good : String → Prop}
    (holds : ListHolds list good) :
    ListHolds (ignoreNulls list) good := by
  intro stated kept nonempty
  exact holds stated (Option.eq_some_of_filter_eq_some kept) nonempty

theorem rowMatches_ignoringNullLists
    {table : PolicyTable}
    {principal : Principal}
    {action : Action}
    {object column : String}
    {row : PolicyRow}
    (rowMatches : RowMatches table principal action object column row) :
    RowMatches table principal action object column row.ignoringNullLists where
  subject := rowMatches.subject
  anyScope := listHolds_ignoreNulls rowMatches.anyScope
  actions := listHolds_ignoreNulls rowMatches.actions
  objectPattern := rowMatches.objectPattern
  columnPattern := rowMatches.columnPattern

/-! ## The layout -/

/-- If one note finds a column exactly by its name, so do all. -/
theorem isSome_foldl_note
    {idx : ColumnLayout → Option Nat}
    {name : String}
    (noted : ∀ layout column,
      (idx (ColumnLayout.note layout column)).isSome ↔
        (idx layout).isSome ∨ column.1 = name)
    (columns : List (String × Nat))
    (layout : ColumnLayout) :
    (idx (columns.foldl ColumnLayout.note layout)).isSome ↔
      (idx layout).isSome ∨ name ∈ columns.map Prod.fst := by
  induction columns generalizing layout with
  | nil => simp
  | cons column columns inductionHypothesis =>
      rw [List.foldl_cons, inductionHypothesis, noted, or_assoc, List.map_cons,
        List.mem_cons, eq_comm (a := name)]

theorem objectPatternIdx_note
    (layout : ColumnLayout)
    (column : String × Nat) :
    (layout.note column).objectPatternIdx.isSome ↔
      layout.objectPatternIdx.isSome ∨ column.1 = "object_pattern" := by
  unfold ColumnLayout.note
  split <;> simp_all

theorem columnPatternIdx_note
    (layout : ColumnLayout)
    (column : String × Nat) :
    (layout.note column).columnPatternIdx.isSome ↔
      layout.columnPatternIdx.isSome ∨ column.1 = "column_pattern" := by
  unfold ColumnLayout.note
  split <;> simp_all

section Loading

variable {table : PolicyTable} {layout : ColumnLayout} {row : PolicyRow}
variable {rule : PolicyRule} {principal : Principal} {action : Action}
variable {object column : String}

/-- The layout has the columns for patterns that the table has. -/
theorem isSome_of_discoverColumns
    (discovered : discoverColumns table.columns = some layout) :
    layout.objectPatternIdx.isSome = table.hasColumn "object_pattern" ∧
      layout.columnPatternIdx.isSome = table.hasColumn "column_pattern" := by
  obtain ⟨-, layout_eq⟩ := Option.ite_none_left_eq_some.mp discovered
  rw [← Option.some_inj.mp layout_eq]
  constructor
  · rw [Bool.eq_iff_iff, isSome_foldl_note objectPatternIdx_note, List.zipIdx_map_fst]
    simp [PolicyTable.hasColumn]
  · rw [Bool.eq_iff_iff, isSome_foldl_note columnPatternIdx_note, List.zipIdx_map_fst]
    simp [PolicyTable.hasColumn]

/-- A rule says what a row does, as far as the loader keeps it. -/
structure LoadedFrom (table : PolicyTable) (row : PolicyRow) (rule : PolicyRule) : Prop where
  subject : rule.subject = row.subject
  anyScope : rule.anyScope = elements row.anyScope
  actions : (elements row.actions).mapM actionFromString = some rule.actions
  objectPattern : rule.objectPattern =
    if table.hasColumn "object_pattern" then
      normalisePattern (row.objectPattern.elim .null .varchar)
    else none
  columnPattern : rule.columnPattern =
    if table.hasColumn "column_pattern" then
      normalisePattern (row.columnPattern.elim .null .varchar)
    else none
  allow : row.allow = some rule.allow

/-- Whatever columns a table has, the positions that the loader reads are those of
the columns it means. -/
theorem loadedFrom_of_loadRule
    (discovered : discoverColumns table.columns = some layout)
    (loaded : loadRule (if layout.objectPatternIdx.isSome then some 5 else none)
      (if layout.columnPatternIdx.isSome then
        if (if layout.objectPatternIdx.isSome then some 5 else none : Option Nat).isSome
          then some 6 else some 5
        else none)
      ((policyQuery layout).map row.value) = some rule) :
    LoadedFrom table row rule := by
  obtain ⟨hasObject, hasColumn⟩ := isSome_of_discoverColumns discovered
  unfold policyQuery at loaded
  rw [hasObject, hasColumn] at loaded
  unfold loadRule at loaded
  split at loaded
  · next allow allow_eq =>
      obtain ⟨actions, actions_eq, rfl⟩ := Option.map_eq_some_iff.mp loaded
      refine ⟨?_, ?_, ?_, ?_, ?_, ?_⟩
      · exact string?_elim row.subject
      · exact children_elim row.anyScope
      · rw [← children_elim row.actions]
        exact actions_eq
      · cases table.hasColumn "object_pattern" <;> rfl
      · cases table.hasColumn "object_pattern" <;>
          cases table.hasColumn "column_pattern" <;> rfl
      · change row.allow.elim Value.null .boolean = .boolean allow at allow_eq
        cases stated : row.allow with
        | none =>
            rw [stated] at allow_eq
            cases allow_eq
        | some verdict =>
            rw [stated] at allow_eq
            cases allow_eq
            rfl
  · cases loaded

/-! ## Conditions -/

/-- Lower case changes nothing for a pattern. -/
theorem globMatch_lowerAscii_iff (pattern name : String) :
    globMatch (Sql.lowerAscii pattern) name = true ↔ InPattern pattern name := by
  have folded : bytesOf (Sql.lowerAscii pattern) = (bytesOf pattern).map lowerByte := by
    rw [Sql.lowerAscii, bytesOf_ofList, bytesOf_eq_flatMap, List.flatMap_map,
      List.map_flatMap]
    exact List.flatMap_congr fun c _ => utf8EncodeChar_toLower c
  unfold globMatch InPattern
  rw [Glob.globMatch_iff, folded]
  refine Glob.matches_map_iff (fun x => ⟨fun isStar => ?_, ?_⟩) alikeByte_lowerByte
  · exact star_eq_of_alikeByte_star x (decide_eq_true (isStar.trans (by decide)))
  · rintro rfl
    decide

theorem patternAdmits_iff
    {present : Bool}
    {stated : Option String}
    {name : String} :
    patternAdmits (if present then normalisePattern (stated.elim .null .varchar) else none)
        name = true ↔
      PatternHolds present stated name := by
  unfold PatternHolds normalisePattern
  rw [string?_elim]
  cases present with
  | false => simp [patternAdmits]
  | true =>
      cases stated with
      | none => simp [patternAdmits]
      | some pattern =>
          by_cases empty : pattern = ""
          · simp [patternAdmits, empty]
          · simp [patternAdmits, empty, globMatch_lowerAscii_iff]

theorem principalHasAnyScope_iff
    (principal : Principal)
    (list : Option (List (Option String))) :
    principalHasAnyScope principal (elements list) = true ↔
      ListHolds (ignoreNulls list) fun scope => scope ∈ principal.scopes := by
  rw [listHolds_ignoreNulls_iff]
  simp [principalHasAnyScope]

theorem actionMatches_iff
    (action : Action)
    {list : Option (List (Option String))}
    {actions : List Action}
    (translated : (elements list).mapM actionFromString = some actions) :
    actionMatches action actions = true ↔
      ListHolds (ignoreNulls list) fun name => actionFromString name = some action := by
  have translates := Ranked.translates_of_mapM translated
  have empty_iff : elements list = [] ↔ actions = [] := by
    rw [← List.length_eq_zero_iff, List.Forall₂.length_eq translates,
      List.length_eq_zero_iff]
  rw [listHolds_ignoreNulls_iff, empty_iff, ← translates.mem_iff]
  simp [actionMatches]

/-- A rule matches a cell exactly if its row would, were its lists of NULLs not
there. -/
theorem ruleMatches_iff
    (loadedFrom : LoadedFrom table row rule) :
    ruleMatches rule principal action object column = true ↔
      RowMatches table principal action object column row.ignoringNullLists := by
  have anyScope_iff := principalHasAnyScope_iff principal row.anyScope
  have actions_iff := actionMatches_iff action loadedFrom.actions
  unfold ruleMatches ruleApplies
  rw [loadedFrom.subject, loadedFrom.anyScope, loadedFrom.objectPattern,
    loadedFrom.columnPattern]
  simp only [Bool.and_eq_true, anyScope_iff, actions_iff, patternAdmits_iff]
  have subject_iff : (match row.subject with
      | none => true
      | some subject => decide (subject = principal.subject)) = true ↔
        ∀ stated, row.subject = some stated → stated = principal.subject := by
    cases row.subject <;> simp
  constructor
  · rintro ⟨⟨⟨⟨subject, anyScope⟩, actions⟩, objectPattern⟩, columnPattern⟩
    exact ⟨subject_iff.mp subject, anyScope, actions, objectPattern, columnPattern⟩
  · rintro ⟨subject, anyScope, actions, objectPattern, columnPattern⟩
    exact ⟨⟨⟨⟨subject_iff.mpr subject, anyScope⟩, actions⟩, objectPattern⟩, columnPattern⟩

/-- A loaded policy has the rules of the table's rows by priority. -/
theorem translates_of_loadPolicyFromTable
    {database : String → Option PolicyTable}
    {qualifiedTable : String}
    {doc : PolicyDocument}
    (found : database qualifiedTable = some table)
    (loaded : loadPolicyFromTable database qualifiedTable = some doc) :
    ∃ translate : PolicyRow → Option PolicyRule,
      Ranked.Translates translate
        (table.rows.insertionSort fun row later => row.priority ≤ later.priority)
        doc.rules ∧
      ∀ row rule, translate row = some rule → LoadedFrom table row rule := by
  unfold loadPolicyFromTable at loaded
  split at loaded
  · cases loaded
  rw [found] at loaded
  dsimp only at loaded
  split at loaded
  · cases loaded
  next layout discovered =>
  split at loaded
  · cases loaded
  next rows selected =>
  obtain ⟨rules, mapped, rfl⟩ := Option.map_eq_some_iff.mp loaded
  obtain ⟨-, rows_eq⟩ := Option.ite_none_right_eq_some.mp selected
  rw [← Option.some_inj.mp rows_eq, List.mapM_map] at mapped
  exact ⟨_, Ranked.translates_of_mapM mapped, fun row rule => loadedFrom_of_loadRule discovered⟩

/-- A loaded policy decides a cell as the rows would without their lists of NULLs. -/
theorem decides_ignoringNullLists
    {database : String → Option PolicyTable}
    {qualifiedTable : String}
    {doc : PolicyDocument}
    (found : database qualifiedTable = some table)
    (loaded : loadPolicyFromTable database qualifiedTable = some doc)
    (defaultAllow : Bool) :
    Ranked.Decides PolicyRow.priority
      (fun row => RowMatches table principal action object column row.ignoringNullLists)
      PolicyRow.verdict (defaultVerdict defaultAllow) table.rows
      (evaluateCell { doc with defaultAllow := defaultAllow } principal action object
        column).decision := by
  obtain ⟨translate, translates, loadedFrom⟩ :=
    translates_of_loadPolicyFromTable found loaded
  have accepts_iff : ∀ row ∈ table.rows,
      (translate row).any (fun rule => ruleMatches rule principal action object column) =
          true ↔
        RowMatches table principal action object column row.ignoringNullLists := by
    intro row member
    obtain ⟨rule, rule_eq⟩ := translates.exists_of_mem ((List.mem_insertionSort _).mpr member)
    rw [rule_eq, Option.any_some, ruleMatches_iff (loadedFrom row rule rule_eq)]
  have verdicts : ∀ row rule, translate row = some rule →
      (if rule.allow then Decision.allow else Decision.deny) = row.verdict := by
    intro row rule rule_eq
    unfold PolicyRow.verdict
    rw [(loadedFrom row rule rule_eq).allow]
    cases rule.allow <;> rfl
  have decides : Ranked.Decides PolicyRow.priority
      (fun row => RowMatches table principal action object column row.ignoringNullLists)
      PolicyRow.verdict (defaultVerdict defaultAllow) table.rows _ :=
    Ranked.decides_find?_insertionSort accepts_iff
  rw [← translates.elim_find? verdicts] at decides
  unfold evaluateCell
  cases firstRule : doc.rules.find? fun rule =>
      ruleMatches rule principal action object column with
  | none =>
      rw [firstRule] at decides
      exact decides
  | some rule =>
      rw [firstRule] at decides
      exact decides

end Loading

/-! ## Refinement -/

/-- The cells of a request.  One that names no object has the cell of its action
alone. -/
def requestCells (request : AuthzRequest) : List (String × String) :=
  if request.objects = [] then [("", "")]
  else touchedCells request.objects request.columns

theorem evaluatePolicy_of_oneCell
    {request : AuthzRequest}
    {object column : String}
    (doc : PolicyDocument)
    (principal : Principal)
    (oneCell : requestCells request = [(object, column)]) :
    (evaluatePolicy doc principal request).decision =
      (evaluateCell doc principal request.action object column).decision := by
  unfold requestCells at oneCell
  by_cases actionOnly : request.objects = []
  · rw [if_pos actionOnly, List.singleton_inj, Prod.mk.injEq] at oneCell
    obtain ⟨rfl, rfl⟩ := oneCell
    unfold evaluatePolicy
    rw [if_pos actionOnly]
  · rw [if_neg actionOnly] at oneCell
    unfold evaluatePolicy
    rw [if_neg actionOnly, oneCell, List.map_singleton]
    dsimp only
    rw [List.find?_singleton]
    cases decided : (evaluateCell doc principal request.action object column).decision with
    | allow => simp
    | deny => simp [decided]

/-- Where no list has nothing but NULL, the policy decides every cell as the rows
say. -/
theorem decides_of_noNullLists
    {database : String → Option PolicyTable}
    {qualifiedTable : String}
    {table : PolicyTable}
    {doc : PolicyDocument}
    (found : database qualifiedTable = some table)
    (loaded : loadPolicyFromTable database qualifiedTable = some doc)
    (noNullLists : ∀ row ∈ table.rows, row.ignoringNullLists = row)
    (defaultAllow : Bool)
    (principal : Principal)
    (action : Action)
    (object column : String) :
    table.Decides defaultAllow principal action object column
      (evaluateCell { doc with defaultAllow := defaultAllow } principal action object
        column).decision := by
  refine Ranked.decides_congr (fun row member => ?_)
    (decides_ignoringNullLists found loaded defaultAllow)
  rw [noNullLists row member]

/-- Lists of NULLs do no harm on a cell: the first row that matches once they are
ignored either matches as it stands, or has the verdict that the rows come to without
it. -/
def PolicyTable.NullListsHarmless
    (table : PolicyTable)
    (defaultAllow : Bool)
    (principal : Principal)
    (action : Action)
    (object column : String) : Prop :=
  ∀ row,
    Ranked.IsFirst PolicyRow.priority
      (fun row => RowMatches table principal action object column row.ignoringNullLists)
      table.rows row →
    ¬ RowMatches table principal action object column row →
      table.Decides defaultAllow principal action object column row.verdict

/-- A loaded policy decides a cell as the rows of its table say, exactly if the lists
of NULLs do no harm there. -/
theorem loadPolicyFromTable_refines_iff
    (database : String → Option PolicyTable)
    (qualifiedTable : String)
    (table : PolicyTable)
    (doc : PolicyDocument)
    (found : database qualifiedTable = some table)
    (loaded : loadPolicyFromTable database qualifiedTable = some doc)
    (distinct : Ranked.Distinct PolicyRow.priority table.rows)
    (defaultAllow : Bool)
    (principal : Principal)
    (request : AuthzRequest)
    (object column : String)
    (oneCell : requestCells request = [(object, column)]) :
    table.Decides defaultAllow principal request.action object column
        (evaluatePolicy { doc with defaultAllow := defaultAllow } principal
          request).decision ↔
      table.NullListsHarmless defaultAllow principal request.action object column := by
  rw [evaluatePolicy_of_oneCell _ principal oneCell]
  exact Ranked.decides_iff_of_weaker distinct
    (fun row _ rowMatches => rowMatches_ignoringNullLists rowMatches)
    (decides_ignoringNullLists found loaded defaultAllow)

/-- A policy with one row, for those who hold a scope that was lost to NULL. -/
def nullListTable : PolicyTable where
  columns := ["priority", "subject", "any_scope", "actions", "allow"]
  rows := [{ priority := 1, anyScope := some [none] }]

/-- The rule of the row asks for no scope, and everyone is allowed. -/
theorem nullList_allows_everyone :
    ∃ doc, loadPolicyFromTable (fun _ => some nullListTable) "main.policies" = some doc ∧
      Ranked.Distinct PolicyRow.priority nullListTable.rows ∧
      ¬ nullListTable.Decides false {} .scan "main.users" "ssn"
        (evaluatePolicy { doc with defaultAllow := false } {}
          { objects := ["main.users"], columns := ["ssn"] }).decision := by
  refine ⟨{ rules := [{}] }, by decide, by decide, ?_⟩
  have noMatch : ∀ row ∈ nullListTable.rows,
      ¬ RowMatches nullListTable {} .scan "main.users" "ssn" row := by
    intro row member rowMatches
    rw [List.mem_singleton.mp member] at rowMatches
    obtain ⟨element, isElement, -⟩ := rowMatches.anyScope [none] rfl (by decide)
    simp at isElement
  unfold PolicyTable.Decides
  rw [Ranked.decides_iff_of_forall_not noMatch]
  decide

/-- With a scope that was not lost, the row is for those who hold it. -/
def analystTable : PolicyTable where
  columns := ["priority", "subject", "any_scope", "actions", "object_pattern", "allow"]
  rows := [
    { priority := 2, anyScope := some [some "analyst", none],
      objectPattern := some "MAIN.*" },
    { priority := 1, actions := some [some "Ddl"], allow := some false }]

theorem loadPolicyFromTable_refines_sample :
    analystTable.Decides false { scopes := ["analyst"] } .scan "main.users" "ssn" .allow ↔
      analystTable.NullListsHarmless false { scopes := ["analyst"] } .scan "main.users"
        "ssn" :=
  loadPolicyFromTable_refines_iff (fun _ => some analystTable) "main.policies" analystTable
    { rules := [
      { actions := [.ddl], allow := false },
      { anyScope := ["analyst"], objectPattern := some "main.*" }] }
    rfl (by decide) (by decide) false { scopes := ["analyst"] }
    { objects := ["main.users"], columns := ["ssn"] } "main.users" "ssn" (by decide)

end Policy
end QuackOauth
