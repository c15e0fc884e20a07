import Mathlib.Data.List.DropRight
import QuackOauth.Audit.Line
import QuackOauth.Opaque.Validators
import QuackOauth.Server.Config
import QuackOauth.Session.System
import QuackOauth.Validator.Validate

/-!
# Rows of tokens and of queries

A chunk of tokens is validated row by row against one configuration, a chunk of queries
is authorized row by row against one policy.  Every row ends with its verdict and with
the audit events that tell of it.
-/

namespace QuackOauth
namespace Server

open Lib Jwt Policy Session Audit
open Validator (RefreshReason RefreshEvent)
open Opaque (TrustContext OpaqueCall OpaqueOutcome)

/-! ## Tokens -/

/-- White space as the bearer prefix knows it. -/
def isAsciiSpace (c : Char) : Bool :=
  c = ' ' || c = '\t' || c = '\r' || c = '\n' || c = '\x0b' || c = '\x0c'

/-- Take the scheme off a text without white space in front, if it is a bearer's. -/
def dropBearer (auth : List Char) : List Char :=
  if (auth.take 6).map Char.toLower = "bearer".toList then
    match auth.drop 6 with
    | [] => []
    | c :: rest => if isAsciiSpace c then (c :: rest).dropWhile isAsciiSpace else auth
  else auth

/-- The token of an authorization string. -/
def stripBearerPrefix (auth : String) : String :=
  String.ofList ((dropBearer (auth.toList.dropWhile isAsciiSpace)).rdropWhile isAsciiSpace)

/-- The loop over a scope string: the word up to the next blank, unless it is empty, and
on behind the blank.  There are no more words than characters. -/
def scopeWords : Nat → List Char → List String
  | 0, _ => []
  | _, [] => []
  | rounds + 1, rest =>
      let word := rest.takeWhile fun c => c != ' '
      (if word = [] then [] else [String.ofList word]) ++
        scopeWords rounds ((rest.dropWhile fun c => c != ' ').drop 1)

/-- The principal of a signed token: its scopes and its roles alike are scopes. -/
def principalFromJwt (jwt : JwtParsed) : Principal where
  subject := jwt.subject
  issuer := jwt.issuer
  exp := jwt.exp
  scopes := scopeWords jwt.scope.toList.length jwt.scope.toList ++ jwt.scp ++ jwt.roles

/-- A verdict as the audit log names it. -/
def verifyResultReason : VerifyResult → String
  | .ok => "ok"
  | .malformed => "malformed"
  | .disallowedAlgorithm => "disallowed_algorithm"
  | .invalidSignature => "invalid_signature"
  | .expired => "expired"
  | .notYetValid => "not_yet_valid"
  | .wrongIssuer => "wrong_issuer"
  | .wrongAudience => "wrong_audience"
  | .unsupportedKeyType => "unsupported_key_type"
  | .unusableKey => "unusable_key"
  | .unknownKid => "unknown_kid"
  | .jwksFetchFailed => "jwks_fetch_failed"
  | .jwksThrottled => "jwks_throttled"
  | .noMatchingKey => "no_matching_key"

/-- A row of a chunk of tokens with what the chunk resolved for all its rows.  The
session id is none where it is null or the call has none. -/
structure TokenRow where
  authString : String
  sid : Option String := none
  config : ServerConfig
  nowS : Int

namespace TokenRow

def token (row : TokenRow) : String :=
  stripBearerPrefix row.authString

def opts (row : TokenRow) : VerifyOptions where
  expectedIssuer := row.config.issuer
  expectedAudience := row.config.audience
  clockSkewS := row.config.clockSkewS
  nowS := row.nowS

/-- The provider to ask about the token; none if keys are to be fetched instead. -/
def trustContext (row : TokenRow) : Option TrustContext :=
  let cfg := row.config
  if cfg.mode = "introspect" then
    some (.introspect {
      endpoint := cfg.introspectionEndpoint
      clientId := cfg.introspectClientId
      clientSecret := cfg.introspectClientSecret
      expectedIssuer := cfg.issuer
      expectedAudience := cfg.audience })
  else if cfg.mode = "tokeninfo" then
    some (.tokeninfo {
      endpoint := cfg.introspectionEndpoint
      expectedAudience := cfg.audience })
  else if cfg.mode = "github_check" then
    some (.githubCheck {
      checkUrl := cfg.introspectionEndpoint
      clientId := cfg.introspectClientId
      clientSecret := cfg.introspectClientSecret })
  else none

/-- The validation of a signed token. -/
def signedCall (row : TokenRow) : Validator.Call where
  token := row.token
  opts := row.opts
  jwksUri := row.config.jwksUri

/-- The validation of an opaque token. -/
def opaqueCall (row : TokenRow) (context : TrustContext) : OpaqueCall where
  token := row.token
  opts := row.opts
  context := context

/-- The URI that throttled refreshes are logged with. -/
def loggedUri (row : TokenRow) : String :=
  if row.trustContext.isSome then "" else row.config.jwksUri

end TokenRow

/-- What the validation of a row says. -/
structure RowValidation where
  outcome : VerifyResult
  principal : Option Principal := none
  refreshKid : String := ""
  refreshReason : String := ""
  refreshReasonEnum : RefreshReason := .none

/-- The principal of an accepted token is read from the token once more. -/
def signedValidation
    (backend : Backend)
    (call : Validator.Call)
    (outcome : Validator.Outcome) : RowValidation :=
  let event : RefreshEvent := if outcome.refresh.reason = "" then {} else outcome.refresh
  { outcome := outcome.verdict
    principal :=
      if outcome.verdict = .ok then (parseJwt backend call.token).map principalFromJwt
      else none
    refreshKid := event.kid
    refreshReason := event.reason
    refreshReasonEnum := event.reasonEnum }

def opaqueValidation (outcome : OpaqueOutcome) : RowValidation where
  outcome := outcome.verdict
  principal := if outcome.verdict = .ok then some (outcome.principal.getD {}) else none

/-- Whether a refresh was refused for its frequency. -/
def isThrottled (reason : RefreshReason) : Bool :=
  reason = .throttled || reason = .budgetThrottled

def shouldAudit : RefreshReason → Bool
  | .rotated | .noRotation | .fetchFailed | .parseFailed | .kidAbsent | .kidEvicted
  | .revoked | .superseded => true
  | .throttled | .budgetThrottled | .none => false

/-- The event of a verdict on a token. -/
def tokenAudit
    (redactSensitive : String → String)
    (row : TokenRow)
    (validation : RowValidation) : AuditEvent :=
  let known := if validation.outcome = .ok then validation.principal else none
  { timestampUnixS := row.nowS
    eventType := if validation.outcome = .ok then .tokenAccepted else .tokenRejected
    tokenHash := bytesOf (redactSensitive row.token)
    subject := bytesOf (known.elim "" (·.subject))
    issuer := bytesOf (known.elim "" (·.issuer))
    reason := bytesOf
      (if validation.outcome ≠ .ok ∧ isThrottled validation.refreshReasonEnum then
        "jwks_throttled"
      else verifyResultReason validation.outcome) }

/-- The event of a refresh that a token caused, if it is one to tell of. -/
def refreshAudit
    (redactSensitive : String → String)
    (row : TokenRow)
    (validation : RowValidation) : Option AuditEvent :=
  if validation.refreshKid ≠ "" ∧ shouldAudit validation.refreshReasonEnum then
    some {
      timestampUnixS := row.nowS
      eventType := .jwksRefresh
      kid := bytesOf validation.refreshKid
      reason := bytesOf validation.refreshReason
      tokenHash := bytesOf (redactSensitive row.token) }
  else none

/-- The events of a row of tokens, in order. -/
def tokenAudits
    (redactSensitive : String → String)
    (row : TokenRow)
    (validation : RowValidation) : List AuditEvent :=
  tokenAudit redactSensitive row validation ::
    (refreshAudit redactSensitive row validation).toList

/-- The session that a row stores a principal for, if it does. -/
def storesSession (row : TokenRow) (validation : RowValidation) : Option (String × Principal) :=
  match row.sid, validation.principal with
  | some sid, some principal =>
      if validation.outcome = .ok ∧ sid ≠ "" then some (sid, principal) else none
  | _, _ => none

/-- A session is stored under its id, for an accepted token's principal. -/
theorem storesSession_eq_some
    {row : TokenRow}
    {validation : RowValidation}
    {sid : String}
    {principal : Principal}
    (stores : storesSession row validation = some (sid, principal)) :
    row.sid = some sid ∧ sid ≠ "" ∧ validation.outcome = .ok ∧
      validation.principal = some principal := by
  unfold storesSession at stores
  split at stores
  · next given known isGiven isKnown =>
      split at stores
      · next accepted =>
          cases stores
          exact ⟨isGiven, accepted.2, accepted.1, isKnown⟩
      · cases stores
  · cases stores

/-! ## Queries -/

def actionName : Action → String
  | .attach => "Attach"
  | .scan => "Scan"
  | .copyTo => "CopyTo"
  | .copyFrom => "CopyFrom"
  | .serveAdmin => "ServeAdmin"
  | .insert => "Insert"
  | .update => "Update"
  | .delete => "Delete"
  | .ddl => "Ddl"
  | .pragma => "Pragma"

/-- The event of a verdict on a query. -/
def authzAudit
    (found : Option Principal)
    (row : AuthorizationRow)
    (outcome : PolicyOutcome) : AuditEvent where
  timestampUnixS := row.nowS
  eventType := if outcome.decision = .allow then .authzAllow else .authzDeny
  subject := bytesOf (found.elim "" (·.subject))
  issuer := bytesOf (found.elim "" (·.issuer))
  action := bytesOf (actionName row.request.action)
  reason := bytesOf outcome.reason

end Server
end QuackOauth
