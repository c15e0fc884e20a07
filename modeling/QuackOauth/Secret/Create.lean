import QuackOauth.Http.Contact
import QuackOauth.Lib.Fallible
import QuackOauth.Secret.Accessor

/-!
# The creation of secrets

A secret takes the options that its type knows, and is refused if an endpoint that it names
does not pass the check of a URL.
-/

namespace QuackOauth
namespace Secret

open Lib Http

/-- What `CREATE SECRET` was given.  The statement's scope is kept apart from the options. -/
structure CreateSecretInput where
  type : String
  scope : List String := []
  options : UnorderedMap String String := ∅

/-- Copy the options of the names that are given. -/
def copyParams
    (options secretMap : UnorderedMap String String)
    (fieldNames : List String) : UnorderedMap String String :=
  fieldNames.foldl (fun secretMap field =>
    match options.lookup field with
    | none => secretMap
    | some value => secretMap.insert field value) secretMap

/-- The fields of a client's secret. -/
def clientFields : List String := [
  "issuer", "client_id", "client_secret", "audience", "scope",
  "device_authorization_endpoint", "token_endpoint", "redirect_listener_port",
  "access_token", "refresh_token", "expires_at"]

/-- The fields of a server's secret. -/
def serverFields : List String := [
  "issuer", "audience", "jwks_uri", "policy_table", "audit_table", "introspection_endpoint",
  "introspect_client_id", "introspect_client_secret", "tenant_or_realm"]

/-- The words of a scope in one string. -/
def joinScope (scope : List String) : String :=
  scope.foldl (fun joined s => (if joined = "" then joined else joined ++ " ") ++ s) ""

/-- Refuse with the text of a check. -/
def raise (check : Except String Unit) : Except Failure Unit :=
  match check with
  | .error message => .error (.invalidInput message)
  | .ok () => .ok ()

/-- A field that is there has to pass a check. -/
def checkField
    (secretMap : UnorderedMap String String)
    (field : String)
    (check : String → Except String Unit) : Except Failure Unit :=
  match secretMap.lookup field with
  | none => .ok ()
  | some value => raise (check value)

/-- A tenant is a name, or the URL of a realm. -/
def validateTenantOrRealm (val : String) : Except String Unit :=
  if val.isEmpty then .ok ()
  else if 2048 < val.utf8ByteSize then
    .error "quack_oauth: tenant_or_realm exceeds maximum allowed length of 2048 characters"
  else if val.toList.any isForbidden then
    .error ("quack_oauth: tenant_or_realm contains invalid or control characters (must not " ++
      "contain spaces, quotes, backslashes, or control characters)")
  else if isHttp val || isHttps val then validateHttpUrl "tenant_or_realm" val
  else if val.toList.contains '@' then
    .error "quack_oauth: tenant_or_realm must not contain userinfo ('@')"
  else .ok ()

/-- The values of a client's secret.  The parser takes the scope for its own, so it is
fetched back from there. -/
def clientSecretMap (input : CreateSecretInput) : UnorderedMap String String :=
  let copied := copyParams input.options ∅ clientFields
  if copied.lookup "scope" = none ∧ input.scope ≠ [] then
    copied.insert "scope" (joinScope input.scope)
  else copied

def createClientSecret (input : CreateSecretInput) : Except Failure KeyValueSecret := do
  let secretMap := clientSecretMap input
  checkField secretMap "device_authorization_endpoint"
    (validateHttpUrl "device_authorization_endpoint")
  checkField secretMap "token_endpoint" (validateHttpUrl "token_endpoint")
  pure { type := input.type, secretMap }

def createServerSecret (input : CreateSecretInput) : Except Failure KeyValueSecret := do
  let secretMap := copyParams input.options ∅ serverFields
  checkField secretMap "jwks_uri" (validateHttpUrl "jwks_uri")
  checkField secretMap "introspection_endpoint" (validateHttpUrl "introspection_endpoint")
  checkField secretMap "tenant_or_realm" validateTenantOrRealm
  pure { type := input.type, secretMap }

/-! ## Created secrets -/

variable {secretMap : UnorderedMap String String} {field : String}
variable {check : String → Except String Unit} {input : CreateSecretInput}
variable {kv : KeyValueSecret}

/-- A secret holds the options that its type knows, and nothing else. -/
theorem lookup_copyParams
    (options secretMap : UnorderedMap String String)
    (fieldNames : List String)
    (field : String) :
    (copyParams options secretMap fieldNames).lookup field =
      if field ∈ fieldNames ∧ (options.lookup field).isSome then options.lookup field
      else secretMap.lookup field := by
  unfold copyParams
  induction fieldNames generalizing secretMap with
  | nil => simp
  | cons first rest inductionHypothesis =>
      rw [List.foldl_cons, inductionHypothesis]
      by_cases isFirst : field = first
      · subst isFirst
        cases given : options.lookup field with
        | none => simp
        | some value => simp
      · cases given : options.lookup first with
        | none => simp [isFirst]
        | some value => simp [isFirst]

/-- A value that a check passed is checked also where it is missing and reads as empty. -/
theorem check_of_checkField
    (empty : check "" = .ok ())
    (passed : checkField secretMap field check = .ok ()) :
    check ((secretMap.lookup field).getD "") = .ok () := by
  unfold checkField at passed
  cases found : secretMap.lookup field with
  | none => exact empty
  | some value =>
      simp only [found, raise] at passed
      split at passed
      · cases passed
      · next accepted => exact accepted

theorem validateHttpUrl_empty (fieldName : String) : validateHttpUrl fieldName "" = .ok () :=
  rfl

/-- The endpoints of a created secret passed the check of a URL. -/
theorem endpoints_of_createClientSecret
    (created : createClientSecret input = .ok kv) :
    validateHttpUrl "device_authorization_endpoint"
        ((kv.secretMap.lookup "device_authorization_endpoint").getD "") = .ok () ∧
      validateHttpUrl "token_endpoint" ((kv.secretMap.lookup "token_endpoint").getD "") =
        .ok () := by
  unfold createClientSecret at created
  obtain ⟨⟨⟩, deviceChecked, created⟩ := Fallible.bind_eq_ok_iff.mp created
  obtain ⟨⟨⟩, tokenChecked, created⟩ := Fallible.bind_eq_ok_iff.mp created
  cases created
  exact ⟨check_of_checkField (validateHttpUrl_empty _) deviceChecked,
    check_of_checkField (validateHttpUrl_empty _) tokenChecked⟩

/-- So did those of a server's secret. -/
theorem endpoints_of_createServerSecret
    (created : createServerSecret input = .ok kv) :
    validateHttpUrl "jwks_uri" ((kv.secretMap.lookup "jwks_uri").getD "") = .ok () ∧
      validateHttpUrl "introspection_endpoint"
        ((kv.secretMap.lookup "introspection_endpoint").getD "") = .ok () := by
  unfold createServerSecret at created
  obtain ⟨⟨⟩, keysChecked, created⟩ := Fallible.bind_eq_ok_iff.mp created
  obtain ⟨⟨⟩, endpointChecked, created⟩ := Fallible.bind_eq_ok_iff.mp created
  obtain ⟨⟨⟩, -, created⟩ := Fallible.bind_eq_ok_iff.mp created
  cases created
  exact ⟨check_of_checkField (validateHttpUrl_empty _) keysChecked,
    check_of_checkField (validateHttpUrl_empty _) endpointChecked⟩

end Secret
end QuackOauth
