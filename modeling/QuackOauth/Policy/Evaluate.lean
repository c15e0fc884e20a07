import QuackOauth.Lib.Glob
import QuackOauth.Text

/-!
# Policies and their evaluation

The rules of a policy table, the request that a statement turns into, and the walk
over the cells a request touches.  A cell is an object with one of its columns; the
first rule that matches a cell decides it.
-/

namespace QuackOauth
namespace Policy

open Lib

/-- An authenticated principal. -/
structure Principal where
  subject : String := ""
  issuer : String := ""
  scopes : List String := []
  /-- Expiry in seconds; zero or less when unknown. -/
  exp : Int := 0
  deriving DecidableEq, Repr

/-- What a statement does, as far as policies tell apart. -/
inductive Action
  | attach
  | scan
  | copyTo
  | copyFrom
  | serveAdmin
  | insert
  | update
  | delete
  | ddl
  | pragma
  deriving DecidableEq, Repr

/-- What is asked for: an action on objects and their columns. -/
structure AuthzRequest where
  action : Action := .scan
  objects : List String := []
  columns : List String := []
  /-- Set when the statement could not be understood; the caller must deny. -/
  isUnsafe : Bool := false
  error : String := ""
  deriving DecidableEq, Repr

/-- The verdict of a policy. -/
inductive Decision
  | allow
  | deny
  deriving DecidableEq, Repr

/-- A verdict with its reason. -/
structure PolicyOutcome where
  decision : Decision := .deny
  reason : String := ""
  deriving DecidableEq, Repr

/-- A rule.  A condition that is none, or an empty list, asks nothing. -/
structure PolicyRule where
  subject : Option String := none
  anyScope : List String := []
  actions : List Action := []
  objectPattern : Option String := none
  columnPattern : Option String := none
  allow : Bool := true
  deriving DecidableEq, Repr

/-- Rules in order of priority, and the verdict where none matches. -/
structure PolicyDocument where
  rules : List PolicyRule := []
  defaultAllow : Bool := false
  deriving DecidableEq, Repr

/-- Whether the principal holds one of the scopes. -/
def principalHasAnyScope (p : Principal) (anyOf : List String) : Bool :=
  anyOf = [] || anyOf.any fun needle => decide (needle ∈ p.scopes)

/-- Whether an action is on a list. -/
def actionMatches (action : Action) (list : List Action) : Bool :=
  list = [] || decide (action ∈ list)

/-- The star of a pattern, as a byte. -/
def starByte : UInt8 := 42

/-- Two bytes are alike up to the case of ASCII letters. -/
def alikeByte (x c : UInt8) : Bool :=
  lowerByte x = lowerByte c

/-- Match a value against a pattern with stars. -/
def globMatch (pattern value : String) : Bool :=
  Glob.globMatch starByte alikeByte (bytesOf pattern) (bytesOf value)

/-- Whether a pattern, if there is one, admits the name of a cell.  A cell without
the name is not admitted by any pattern. -/
def patternAdmits (pattern : Option String) (name : String) : Bool :=
  match pattern with
  | none => true
  | some pattern => name ≠ "" && globMatch pattern name

/-- Whether a rule's conditions hold, those on the column apart. -/
def ruleApplies
    (rule : PolicyRule)
    (principal : Principal)
    (action : Action)
    (object : String) : Bool :=
  (match rule.subject with
    | none => true
    | some subject => subject = principal.subject) &&
    principalHasAnyScope principal rule.anyScope &&
    actionMatches action rule.actions &&
    patternAdmits rule.objectPattern object

/-- Whether a rule matches a cell. -/
def ruleMatches
    (rule : PolicyRule)
    (principal : Principal)
    (action : Action)
    (object column : String) : Bool :=
  ruleApplies rule principal action object && patternAdmits rule.columnPattern column

/-- A reason with the cell it is about. -/
def cellReason (verdict object column : String) : String :=
  verdict ++ (if object = "" then "" else " on " ++ object) ++
    (if column = "" then "" else "." ++ column)

/-- Decide a cell by the first rule that matches it. -/
def evaluateCell
    (doc : PolicyDocument)
    (principal : Principal)
    (action : Action)
    (object column : String) : PolicyOutcome :=
  match doc.rules.find? fun rule => ruleMatches rule principal action object column with
  | some rule => {
      decision := if rule.allow then .allow else .deny
      reason := cellReason (if rule.allow then "rule allow" else "rule deny") object
        column }
  | none => {
      decision := if doc.defaultAllow then .allow else .deny
      reason := cellReason (if doc.defaultAllow then "default allow" else "default deny")
        object column }

/-- The cells of a request that names objects, in the order they are walked. -/
def touchedCells (objects columns : List String) : List (String × String) :=
  objects.flatMap fun object =>
    if columns = [] then [(object, "")] else columns.map fun column => (object, column)

/-- Decide a request: every cell must be allowed, and the first that is not is the
outcome. -/
def evaluatePolicy
    (doc : PolicyDocument)
    (principal : Principal)
    (request : AuthzRequest) : PolicyOutcome :=
  if request.objects = [] then evaluateCell doc principal request.action "" ""
  else
    let outcomes := (touchedCells request.objects request.columns).map fun cell =>
      evaluateCell doc principal request.action cell.1 cell.2
    match outcomes.find? fun outcome => outcome.decision = .deny with
    | some denied => denied
    | none => { decision := .allow, reason := "ok" }

/-- Whether the principal holds a scope. -/
def hasScope (p : Principal) (needle : String) : Bool :=
  needle ∈ p.scopes

/-- The policy that applies where no policy table is configured.  It looks at the
action alone. -/
def evaluateDefaultPolicy (principal : Principal) (action : Action) : PolicyOutcome :=
  let hasRead := hasScope principal "quack:read" || hasScope principal "quack:write"
  let hasWrite := hasScope principal "quack:write"
  match action with
  | .attach | .scan =>
      if hasRead then { decision := .allow, reason := "ok" }
      else { decision := .deny, reason := "requires quack:read" }
  | .copyTo | .copyFrom | .insert | .update | .delete =>
      if hasWrite then { decision := .allow, reason := "ok" }
      else { decision := .deny, reason := "requires quack:write" }
  -- No scope makes an administrator.
  | .ddl | .pragma | .serveAdmin => {
      decision := .deny
      reason := "default policy never permits administrative actions" }

/-! ## Bytes of patterns -/

theorem star_eq_of_alikeByte_star (x : UInt8) (alike : alikeByte x starByte = true) :
    x = starByte := by
  have equal : lowerByte x = 42 := of_decide_eq_true alike
  unfold lowerByte at equal
  split at equal
  · next isUpper =>
      have lower := congrArg UInt8.toNat equal
      have bounds : 65 ≤ x.toNat ∧ x.toNat ≤ 90 := isUpper
      rw [UInt8.toNat_add] at lower
      simp only [UInt8.toNat_ofNat] at lower
      omega
  · exact equal

theorem alikeByte_lowerByte (x c : UInt8) : alikeByte (lowerByte x) c = alikeByte x c := by
  unfold alikeByte
  rw [lowerByte_lowerByte]

/-! ## Verdicts -/

variable {doc : PolicyDocument} {principal : Principal} {action : Action}
variable {object column : String}

theorem decision_ne_deny_iff (decision : Decision) :
    decision ≠ .deny ↔ decision = .allow := by
  cases decision <;> decide

/-- A cell is allowed if the first rule that matches it allows, or if none matches
and that is allowed. -/
theorem evaluateCell_allow_iff :
    (evaluateCell doc principal action object column).decision = .allow ↔
      (∀ rule, (doc.rules.find? fun rule =>
          ruleMatches rule principal action object column) = some rule →
        rule.allow = true) ∧
      ((∀ rule ∈ doc.rules, ruleMatches rule principal action object column = false) →
        doc.defaultAllow = true) := by
  unfold evaluateCell
  cases found : doc.rules.find? fun rule =>
      ruleMatches rule principal action object column with
  | some rule =>
      obtain ⟨matching, member⟩ :=
        And.intro (List.find?_some found) (List.mem_of_find?_eq_some found)
      constructor
      · intro allowed
        refine ⟨?_, fun noMatch => ?_⟩
        · rintro other ⟨⟩
          by_contra denies
          simp only [denies] at allowed
          cases allowed
        · rw [noMatch rule member] at matching
          cases matching
      · intro allowed
        simp only [allowed.1 rule rfl, if_true]
  | none =>
      have noMatch : ∀ rule ∈ doc.rules,
          ruleMatches rule principal action object column = false := by
        simpa using found
      constructor
      · intro allowed
        refine ⟨fun rule impossible => (by cases impossible), fun _ => ?_⟩
        by_contra denies
        simp only [denies] at allowed
        cases allowed
      · intro allowed
        simp only [allowed.2 noMatch, if_true]

/-- A request on objects is allowed if each of its cells is. -/
theorem evaluatePolicy_allow_iff
    {request : AuthzRequest}
    (objectsNonempty : request.objects ≠ []) :
    (evaluatePolicy doc principal request).decision = .allow ↔
      ∀ cell ∈ touchedCells request.objects request.columns,
        (evaluateCell doc principal request.action cell.1 cell.2).decision = .allow := by
  unfold evaluatePolicy
  rw [if_neg objectsNonempty]
  dsimp only
  split
  · next denied found =>
      have denies := List.find?_some found
      have member := List.mem_of_find?_eq_some found
      obtain ⟨cell, touched, rfl⟩ := List.mem_map.mp member
      rw [of_decide_eq_true denies]
      constructor
      · intro impossible
        cases impossible
      · intro allowed
        rw [← of_decide_eq_true denies]
        exact allowed cell touched
  · next noDeny =>
      constructor
      · intro _ cell touched
        rw [← decision_ne_deny_iff]
        intro denies
        have passes := List.find?_eq_none.mp noDeny _ (List.mem_map_of_mem touched)
        exact passes (decide_eq_true denies)
      · exact fun _ => rfl

theorem mem_touchedCells
    {objects columns : List String}
    (columnsNonempty : columns ≠ []) :
    (object, column) ∈ touchedCells objects columns ↔
      object ∈ objects ∧ column ∈ columns := by
  simp [touchedCells, columnsNonempty]

end Policy
end QuackOauth
