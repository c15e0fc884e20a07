import QuackOauth.Server.Authorized
import QuackOauth.Server.Config
import QuackOauth.Sql.Reach

/-!
# What a session may do

The queries of a chunk are decided under the policy table of the active secret, or, where
that names none, under the default policy on scopes.  A query that is allowed reaches
nothing that the rows of the table do not allow on its own, hidden targets apart, and under
the default policy it changes nothing unless the principal may write.
-/

namespace QuackOauth
namespace Server

open Lib Policy Session Sql Secret

/-- What a chunk of queries is decided with: the settings and the secrets that are
found, the tables of the database and its parser. -/
structure AuthorizationChunk where
  settings : Settings
  getSecretByName : String → Option SecretEntry
  database : String → Option PolicyTable
  parseBuiltin : String → Except String (List Statement)
  nowS : Int

namespace AuthorizationChunk

/-- The name of the policy table, empty if there is none. -/
def policyTable (chunk : AuthorizationChunk) : String :=
  lookupPolicyTable chunk.settings chunk.getSecretByName

/-- The policy of the table; none without a table, and if it does not load. -/
def policy (chunk : AuthorizationChunk) : Option PolicyDocument :=
  if chunk.policyTable = "" then none
  else
    (loadPolicyFromTable chunk.database chunk.policyTable).map fun doc =>
      { doc with defaultAllow := lookupDefaultAllow chunk.settings }

/-- A table is named and does not load. -/
def policyLoadFailed (chunk : AuthorizationChunk) : Bool :=
  chunk.policyTable ≠ "" && chunk.policy.isNone

/-- A row of the chunk: a query of a session. -/
def row (chunk : AuthorizationChunk) (sid query : String) : AuthorizationRow where
  sid
  nowS := chunk.nowS
  skewS := lookupClockSkew chunk.settings
  policy := chunk.policy
  policyLoadFailed := chunk.policyLoadFailed
  request := inspectSql chunk.parseBuiltin query

/-- The rows of a policy table allow a cell: the first of them that matches allows, or
none matches and the setting allows.  A list of nothing but NULL is no condition. -/
def Allows
    (chunk : AuthorizationChunk)
    (table : PolicyTable)
    (principal : Principal)
    (action : Action)
    (object column : String) : Prop :=
  Ranked.Decides PolicyRow.priority
    (fun row => RowMatches table principal action object column row.ignoringNullLists)
    PolicyRow.verdict (defaultVerdict (lookupDefaultAllow chunk.settings)) table.rows .allow

/-- The rows of a policy table allow all that statements reach and do not hide. -/
structure AllowsAll
    (chunk : AuthorizationChunk)
    (table : PolicyTable)
    (principal : Principal)
    (statements : List Statement) : Prop where
  /-- Every object is allowed with every column, under the verb of each statement. -/
  cells :
    ∀ {statement object column}, statement ∈ statements →
      Reaches statements object →
      ¬Hidden statements object →
      AsksFor statements column →
      chunk.Allows table principal (verb statement) object column

/-- The default policy permits what statements do to a principal. -/
structure Permits (principal : Principal) (statements : List Statement) : Prop where
  /-- Nobody administers. -/
  verbs :
    ∀ statement ∈ statements, verb statement ∉ [Action.ddl, .pragma, .serveAdmin]
  /-- Who may not write may read. -/
  reader : hasScope principal "quack:write" = false → hasScope principal "quack:read" = true
  /-- For who may not write, no statement is of another verb than those of reads. -/
  reads :
    hasScope principal "quack:write" = false →
      ∀ statement ∈ statements, isRead (verb statement) = true
  /-- Nor is there a data-modifying node in any of them. -/
  writes :
    hasScope principal "quack:write" = false →
      (∀ statement ∈ statements, isPlain statement = true) →
      ∀ scope node, OccursIn statements scope node → writeAction node = none

variable {chunk : AuthorizationChunk} {sid query : String} {principal : Principal}
variable {statements : List Statement}

theorem inspectSql_eq_inspectStatements
    {parseBuiltin : String → Except String (List Statement)}
    (nonempty : query ≠ "")
    (parses : parseBuiltin query = .ok statements) :
    inspectSql parseBuiltin query = inspectStatements statements := by
  unfold inspectSql
  rw [if_neg nonempty, parses]

/-- With a table, a query is only granted by the policy that loads from it. -/
theorem loaded_of_grants
    (configured : chunk.policyTable ≠ "")
    (grants : System.Grants (chunk.row sid query) principal) :
    ∃ doc, loadPolicyFromTable chunk.database chunk.policyTable = some doc ∧
      chunk.policy = some { doc with defaultAllow := lookupDefaultAllow chunk.settings } := by
  have loads : (decide (chunk.policyTable ≠ "") && chunk.policy.isNone) = false :=
    grants.loaded
  rw [decide_eq_true configured, Bool.true_and] at loads
  obtain ⟨policy, isPolicy⟩ := Option.isSome_iff_exists.mp (Option.isNone_eq_false_iff.mp loads)
  have mapped := isPolicy
  unfold AuthorizationChunk.policy at mapped
  rw [if_neg configured] at mapped
  obtain ⟨doc, loaded, rfl⟩ := Option.map_eq_some_iff.mp mapped
  exact ⟨doc, loaded, isPolicy⟩

/-- A table that a policy loads from is there. -/
theorem exists_table_of_loads
    {doc : PolicyDocument}
    (loaded : loadPolicyFromTable chunk.database chunk.policyTable = some doc) :
    ∃ table, chunk.database chunk.policyTable = some table := by
  unfold loadPolicyFromTable at loaded
  split at loaded
  · cases loaded
  · split at loaded
    · cases loaded
    · next table found => exact ⟨table, found⟩

/-- The rows of the table allow all that a granted query reaches. -/
theorem allowsAll_of_grants
    (configured : chunk.policyTable ≠ "")
    (nonempty : query ≠ "")
    (parses : chunk.parseBuiltin query = .ok statements)
    (grants : System.Grants (chunk.row sid query) principal) :
    ∃ table, chunk.database chunk.policyTable = some table ∧
      chunk.AllowsAll table principal statements := by
  obtain ⟨doc, loaded, isPolicy⟩ := loaded_of_grants configured grants
  obtain ⟨table, found⟩ := exists_table_of_loads loaded
  have isRequest : (chunk.row sid query).request = inspectStatements statements :=
    inspectSql_eq_inspectStatements nonempty parses
  have accepted : Accepted statements :=
    accepted_of_isUnsafe_eq_false (isRequest ▸ grants.safe)
  have allows := grants.allowed
  rw [isRequest, show (chunk.row sid query).policy = chunk.policy from rfl, isPolicy] at allows
  refine ⟨table, found, ⟨fun {statement object column} member reaches shown asks => ?_⟩⟩
  have decides : Ranked.Decides PolicyRow.priority
      (fun row => RowMatches table principal (requestVerb statements) object column
        row.ignoringNullLists)
      PolicyRow.verdict (defaultVerdict (lookupDefaultAllow chunk.settings)) table.rows
      (evaluateCell { doc with defaultAllow := lookupDefaultAllow chunk.settings } principal
        (requestVerb statements) object column).decision :=
    decides_ignoringNullLists found loaded (lookupDefaultAllow chunk.settings)
  rw [evaluateCell_of_reaches accepted allows reaches shown asks] at decides
  rw [accepted.sameVerb statement member]
  exact decides

/-- What the default policy allows. -/
theorem evaluateDefaultPolicy_allow_iff {action : Action} :
    (evaluateDefaultPolicy principal action).decision = .allow ↔
      action ∉ [Action.ddl, .pragma, .serveAdmin] ∧
        (isRead action = true ∧ hasScope principal "quack:read" = true ∨
          hasScope principal "quack:write" = true) := by
  unfold evaluateDefaultPolicy
  cases action <;> simp [isRead] <;> split_ifs <;> simp_all

/-- Without a table, the default policy permits what a granted query does. -/
theorem permits_of_grants
    (unset : chunk.policyTable = "")
    (nonempty : query ≠ "")
    (parses : chunk.parseBuiltin query = .ok statements)
    (grants : System.Grants (chunk.row sid query) principal) :
    Permits principal statements := by
  have isRequest : (chunk.row sid query).request = inspectStatements statements :=
    inspectSql_eq_inspectStatements nonempty parses
  have accepted : Accepted statements :=
    accepted_of_isUnsafe_eq_false (isRequest ▸ grants.safe)
  have noPolicy : (chunk.row sid query).policy = none := if_pos unset
  have allows := grants.allowed
  rw [noPolicy, isRequest, inspectStatements_action] at allows
  obtain ⟨notAdmin, byScope⟩ := evaluateDefaultPolicy_allow_iff.mp allows
  have readsOnly (mayNotWrite : hasScope principal "quack:write" = false) :
      isRead (requestVerb statements) = true ∧ hasScope principal "quack:read" = true := by
    rcases byScope with readsAsReader | mayWrite
    · exact readsAsReader
    · rw [mayNotWrite] at mayWrite
      cases mayWrite
  constructor
  case verbs =>
    intro statement member
    rw [accepted.sameVerb statement member]
    exact notAdmin
  case reader => exact fun mayNotWrite => (readsOnly mayNotWrite).2
  case reads =>
    intro mayNotWrite statement member
    rw [accepted.sameVerb statement member]
    exact (readsOnly mayNotWrite).1
  case writes =>
    intro mayNotWrite plain scope node occurs
    exact writeAction_eq_none_of_isRead accepted plain (readsOnly mayNotWrite).1 occurs

end AuthorizationChunk

namespace System

variable {libraries : Libraries} {startup : Startup} {labels : List Label} {label : Label}
variable {row : AuthorizationRow} {found : Option Principal} {outcome : PolicyOutcome}

/-- A session belongs to a principal: the last token accepted for it said so. -/
def BelongsTo
    (libraries : Libraries)
    (startup : Startup)
    (labels : List Label)
    (sid : String)
    (principal : Principal) : Prop :=
  Machine.Since (step libraries)
    (fun system label => ∃ row, Authenticates libraries row sid principal system label)
    (fun system label => ∀ row other, ¬Authenticates libraries row sid other system label)
    (initial startup) labels

/-- A query that is allowed is granted to whom its session belongs to. -/
theorem belongsTo_of_allow
    (decides : (run libraries (initial startup) labels).verdictOf libraries label =
      some (.query row found outcome))
    (allows : outcome.decision = .allow) :
    ∃ principal, found = some principal ∧
      BelongsTo libraries startup labels row.sid principal ∧ Grants row principal := by
  obtain ⟨isFound, isOutcome⟩ := query_of_verdictOf decides
  rw [isOutcome] at allows
  obtain ⟨principal, held, grants⟩ := grants_of_authorize allows
  exact ⟨principal, held, since_authenticates (isFound.symm.trans held), grants⟩

/-- A query that is allowed reaches only what the rows of the policy table allow to the
principal that its session belongs to: every object that is not hidden on its own, with
every column that the query asks for. -/
theorem allowed_within_table
    (libraries : Libraries)
    (startup : Startup)
    (labels : List Label)
    (label : Label)
    (chunk : AuthorizationChunk)
    (sid query : String)
    (statements : List Statement)
    (found : Option Principal)
    (outcome : PolicyOutcome)
    (decides : (run libraries (initial startup) labels).verdictOf libraries label =
      some (.query (chunk.row sid query) found outcome))
    (allows : outcome.decision = .allow)
    (configured : chunk.policyTable ≠ "")
    (nonempty : query ≠ "")
    (parses : chunk.parseBuiltin query = .ok statements) :
    ∃ principal table,
      BelongsTo libraries startup labels sid principal ∧
      chunk.database chunk.policyTable = some table ∧
      chunk.AllowsAll table principal statements := by
  obtain ⟨principal, -, belongs, grants⟩ := belongsTo_of_allow decides allows
  obtain ⟨table, isTable, allowsAll⟩ :=
    AuthorizationChunk.allowsAll_of_grants configured nonempty parses grants
  exact ⟨principal, table, belongs, isTable, allowsAll⟩

/-- Orders may be read, and nothing else. -/
def orderTable : PolicyTable where
  columns := ["priority", "subject", "any_scope", "actions", "object_pattern", "allow"]
  rows := [{
    priority := 1
    actions := some [some "Scan"]
    objectPattern := some "main.orders" }]

/-- The secret of a server that decides by the table. -/
def sampleServerSecret : KeyValueSecret where
  type := "quack_oauth_server"
  secretMap := AList.insert "policy_table" "policies" ∅

/-- `SELECT id FROM orders`. -/
def sampleStatement : Statement :=
  .select (.node [] [] (plainSelect "id" (plainTable "orders")))

/-- A chunk under the table. -/
def tableChunk : AuthorizationChunk where
  settings := { serverSecretName := some "srv" }
  getSecretByName secretName :=
    if secretName = "srv" then some { secret := .keyValue sampleServerSecret } else none
  database _ := some orderTable
  parseBuiltin _ := .ok [sampleStatement]
  nowS := 1001

theorem allowed_within_table_sample :
    ∃ principal table,
      BelongsTo sampleLibraries sampleStartup sampleAuthentication "s" principal ∧
      tableChunk.database tableChunk.policyTable = some table ∧
      tableChunk.AllowsAll table principal [sampleStatement] :=
  allowed_within_table sampleLibraries sampleStartup sampleAuthentication
    (.checkAuthorization (tableChunk.row "s" "SELECT id FROM orders")) tableChunk "s"
    "SELECT id FROM orders" [sampleStatement] (some {}) { decision := .allow, reason := "ok" }
    (by rfl) rfl (by decide) (by decide) rfl

/-- Where no policy table is named, a query that is allowed to a principal who may not
write has no data-modifying node in it, however deep, and is never administrative. -/
theorem allowed_within_scopes
    (libraries : Libraries)
    (startup : Startup)
    (labels : List Label)
    (label : Label)
    (chunk : AuthorizationChunk)
    (sid query : String)
    (statements : List Statement)
    (found : Option Principal)
    (outcome : PolicyOutcome)
    (decides : (run libraries (initial startup) labels).verdictOf libraries label =
      some (.query (chunk.row sid query) found outcome))
    (allows : outcome.decision = .allow)
    (unset : chunk.policyTable = "")
    (nonempty : query ≠ "")
    (parses : chunk.parseBuiltin query = .ok statements) :
    ∃ principal,
      BelongsTo libraries startup labels sid principal ∧
      AuthorizationChunk.Permits principal statements := by
  obtain ⟨principal, -, belongs, grants⟩ := belongsTo_of_allow decides allows
  exact ⟨principal, belongs,
    AuthorizationChunk.permits_of_grants unset nonempty parses grants⟩

/-- The tokens of the sample issuer are for readers. -/
def readerLibraries : Libraries where
  backend := {
    Validator.sampleBackend with
    decode := fun token => (Validator.sampleBackend.decode token).map fun decoded =>
      { decoded with scope := .value "quack:read" } }
  keyOf := id
  redactSensitive := id

/-- A chunk without a table. -/
def scopeChunk : AuthorizationChunk where
  settings := {}
  getSecretByName _ := none
  database _ := none
  parseBuiltin _ := .ok [sampleStatement]
  nowS := 1001

theorem allowed_within_scopes_sample :
    ∃ principal,
      BelongsTo readerLibraries sampleStartup sampleAuthentication "s" principal ∧
      AuthorizationChunk.Permits principal [sampleStatement] :=
  allowed_within_scopes readerLibraries sampleStartup sampleAuthentication
    (.checkAuthorization (scopeChunk.row "s" "SELECT id FROM orders")) scopeChunk "s"
    "SELECT id FROM orders" [sampleStatement] (some { scopes := ["quack:read"] })
    { decision := .allow, reason := "ok" } (by rfl) rfl (by decide) (by decide) rfl

end System
end Server
end QuackOauth
