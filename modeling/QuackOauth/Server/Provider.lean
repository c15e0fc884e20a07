import QuackOauth.Http.Contact

/-!
# Provider presets

A preset names the endpoints of an identity provider by templates with a place for the
tenant.  The tenant is put in as it is, and not searched for places itself.
-/

namespace QuackOauth
namespace Server

open Lib Separator Http

inductive ProviderId
  | generic
  | entra
  | google
  | keycloak
  | okta
  | github
  deriving DecidableEq, Repr

/-- How a provider exposes whether a token is valid. -/
inductive ProviderValidation
  | jwks
  | tokeninfo
  | introspect
  | githubCheck
  deriving DecidableEq, Repr

/-- A provider with its templates. -/
structure ProviderConfig where
  id : ProviderId
  name : String
  validation : ProviderValidation
  issuerTemplate : String
  jwksUriTemplate : String
  introspectionTemplate : String

/-- A provider with its endpoints. -/
structure ProviderResolved where
  id : ProviderId := .generic
  validation : ProviderValidation := .jwks
  issuer : String := ""
  jwksUri : String := ""
  introspectionEndpoint : String := ""

/-- The provider of a name in any case; any other name is generic. -/
def providerFromString (s : String) : ProviderId :=
  let lower := String.ofList (s.toList.map Char.toLower)
  if lower = "entra" then .entra
  else if lower = "google" then .google
  else if lower = "keycloak" then .keycloak
  else if lower = "okta" then .okta
  else if lower = "github" then .github
  else .generic

/-- The templates of a provider.  There are none for Okta yet. -/
def getProviderConfig : ProviderId → ProviderConfig
  | .entra => {
      id := .entra
      name := "entra"
      validation := .jwks
      issuerTemplate := "https://login.microsoftonline.com/\x7btenant\x7d/v2.0"
      jwksUriTemplate :=
        "https://login.microsoftonline.com/\x7btenant\x7d/discovery/v2.0/keys"
      introspectionTemplate := "" }
  | .google => {
      id := .google
      name := "google"
      validation := .tokeninfo
      issuerTemplate := "https://accounts.google.com"
      jwksUriTemplate := "https://www.googleapis.com/oauth2/v3/certs"
      introspectionTemplate := "https://oauth2.googleapis.com/tokeninfo" }
  | .keycloak => {
      id := .keycloak
      name := "keycloak"
      validation := .jwks
      issuerTemplate := "\x7btenant\x7d"
      jwksUriTemplate := "\x7btenant\x7d/protocol/openid-connect/certs"
      introspectionTemplate := "\x7btenant\x7d/protocol/openid-connect/token/introspect" }
  | .github => {
      id := .github
      name := "github"
      validation := .githubCheck
      issuerTemplate := "https://api.github.com"
      jwksUriTemplate := ""
      introspectionTemplate := "https://api.github.com/applications/\x7btenant\x7d/token" }
  | .okta | .generic => {
      id := .generic
      name := "generic"
      validation := .jwks
      issuerTemplate := ""
      jwksUriTemplate := ""
      introspectionTemplate := "" }

def placeholder : List Char := "\x7btenant\x7d".toList

/-- The rounds of the loop that replaces one place after another; each round goes on
behind what it put in. -/
def substituteRounds (tenant : List Char) : Nat → List Char → List Char
  | 0, rest => rest
  | rounds + 1, rest =>
      match cutAt placeholder rest with
      | none => rest
      | some (before, after) => before ++ tenant ++ substituteRounds tenant rounds after

/-- Put the tenant into a template.  A template has no more places than characters. -/
def substitute (tmpl tenant : String) : String :=
  String.ofList (substituteRounds tenant.toList tmpl.toList.length tmpl.toList)

/-- The endpoints of a provider for a tenant. -/
def resolveProvider (id : ProviderId) (tenantOrRealm : String) : ProviderResolved :=
  let cfg := getProviderConfig id
  { id := cfg.id
    validation := cfg.validation
    issuer := substitute cfg.issuerTemplate tenantOrRealm
    jwksUri := substitute cfg.jwksUriTemplate tenantOrRealm
    introspectionEndpoint := substitute cfg.introspectionTemplate tenantOrRealm }

/-! ## Substitution -/

/-- A template with one place. -/
theorem substitute_once
    {tmpl : String}
    {before after : List Char}
    (first : cutAt placeholder tmpl.toList = some (before, after))
    (last : cutAt placeholder after = none)
    (tenant : String) :
    substitute tmpl tenant = String.ofList (before ++ tenant.toList ++ after) := by
  unfold substitute
  cases length : tmpl.toList.length with
  | zero =>
      rw [List.length_eq_zero_iff.mp length] at first
      cases first
  | succ rounds =>
      rw [substituteRounds, first]
      cases rounds with
      | zero => rfl
      | succ rounds => simp only [substituteRounds, last]

/-- A template without a place. -/
theorem substitute_never
    {tmpl : String}
    (absent : cutAt placeholder tmpl.toList = none)
    (tenant : String) :
    substitute tmpl tenant = tmpl := by
  unfold substitute
  cases tmpl.toList.length with
  | zero => exact String.ofList_toList
  | succ rounds =>
      simp only [substituteRounds, absent]
      exact String.ofList_toList

/-! ## The host of a preset -/

/-- A URL that starts with a scheme and a host, and goes on in any way. -/
theorem parseUrl_https
    {start host : List Char}
    (starts : start = "https://".toList ++ (host ++ ['/']))
    (plain : host.all (fun c => c != '/' && c != ':') = true)
    (named : host ≠ [])
    (path : List Char) :
    parseUrl (String.ofList (start ++ path)) = some {
      scheme := "https"
      host := String.ofList host
      port := 443
      path := String.ofList ('/' :: path) } := by
  subst starts
  have marks : ∀ c ∈ host, (c != '/') = true ∧ (c != ':') = true := fun c member =>
    Bool.and_eq_true_iff.mp (List.all_eq_true.mp plain c member)
  have noSlash : ∀ c ∈ host, (c != '/') = true := fun c member => (marks c member).1
  have schemed : cutAt "://".toList
      (String.ofList ("https://".toList ++ (host ++ ['/']) ++ path)).toList =
      some ("https".toList, host ++ '/' :: path) := by
    simp only [String.toList_ofList, List.append_assoc]
    rfl
  have front : (host ++ '/' :: path).takeWhile (fun c => c != '/') = host := by
    rw [List.takeWhile_append_of_pos noSlash]
    simp
  have back : (host ++ '/' :: path).dropWhile (fun c => c != '/') = '/' :: path := by
    rw [List.dropWhile_append_of_pos noSlash]
    simp
  have noPort : cutLast ':' host = none := by
    rw [cutLast_eq_none_iff]
    exact fun member => absurd (marks ':' member).2 (by decide)
  simp only [parseUrl, schemed, splitHostPart, front, back, noPort, if_true,
    List.isEmpty_eq_false_iff.mpr named, if_false, Bool.false_eq_true]
  rfl

theorem jwksUri_entra (tenant : String) :
    (resolveProvider .entra tenant).jwksUri =
      String.ofList ("https://login.microsoftonline.com/".toList ++
        (tenant.toList ++ "/discovery/v2.0/keys".toList)) := by
  have first : cutAt placeholder
      "https://login.microsoftonline.com/\x7btenant\x7d/discovery/v2.0/keys".toList =
      some ("https://login.microsoftonline.com/".toList, "/discovery/v2.0/keys".toList) := by
    decide
  rw [← List.append_assoc]
  exact substitute_once first (by decide) tenant

theorem introspectionEndpoint_github (tenant : String) :
    (resolveProvider .github tenant).introspectionEndpoint =
      String.ofList ("https://api.github.com/".toList ++
        ("applications/".toList ++ (tenant.toList ++ "/token".toList))) := by
  have first : cutAt placeholder
      "https://api.github.com/applications/\x7btenant\x7d/token".toList =
      some ("https://api.github.com/".toList ++ "applications/".toList,
        "/token".toList) := by
    decide
  rw [← List.append_assoc, ← List.append_assoc]
  exact substitute_once first (by decide) tenant

theorem resolveProvider_google (tenant : String) :
    (resolveProvider .google tenant).jwksUri =
        String.ofList ("https://www.googleapis.com/".toList ++ "oauth2/v3/certs".toList) ∧
      (resolveProvider .google tenant).introspectionEndpoint =
        String.ofList ("https://oauth2.googleapis.com/".toList ++ "tokeninfo".toList) :=
  ⟨substitute_never (by decide) tenant, substitute_never (by decide) tenant⟩

/-- The host at which a preset has the endpoint of a mode. -/
def presetHost (id : ProviderId) (mode : String) : Option String :=
  match id with
  | .entra => if mode = "jwks" then some "login.microsoftonline.com" else none
  | .google =>
      if mode = "jwks" then some "www.googleapis.com" else some "oauth2.googleapis.com"
  | .github => if mode = "jwks" then none else some "api.github.com"
  | .keycloak | .okta | .generic => none

/-- A preset's endpoint for a mode. -/
def ProviderResolved.endpoint (resolved : ProviderResolved) (mode : String) : String :=
  if mode = "jwks" then resolved.jwksUri else resolved.introspectionEndpoint

/-- Whatever the tenant, a preset that knows its host leads there. -/
theorem parseUrl_endpoint_resolveProvider
    {id : ProviderId}
    {mode host : String}
    (known : presetHost id mode = some host)
    (tenant : String) :
    ∃ path, parseUrl ((resolveProvider id tenant).endpoint mode) = some {
      scheme := "https"
      host
      port := 443
      path } := by
  unfold ProviderResolved.endpoint
  cases id with
  | entra =>
      rw [presetHost, Option.ite_none_right_eq_some] at known
      obtain ⟨signed, ⟨⟩⟩ := known
      rw [if_pos signed, jwksUri_entra]
      exact ⟨_, parseUrl_https (by decide) (by decide) (by decide) _⟩
  | google =>
      unfold presetHost at known
      split_ifs at known ⊢ with signed
      · cases known
        rw [(resolveProvider_google tenant).1]
        exact ⟨_, parseUrl_https (by decide) (by decide) (by decide) _⟩
      · cases known
        rw [(resolveProvider_google tenant).2]
        exact ⟨_, parseUrl_https (by decide) (by decide) (by decide) _⟩
  | github =>
      rw [presetHost, Option.ite_none_left_eq_some] at known
      obtain ⟨unsigned, ⟨⟩⟩ := known
      rw [if_neg unsigned, introspectionEndpoint_github]
      exact ⟨_, parseUrl_https (by decide) (by decide) (by decide) _⟩
  | keycloak => cases known
  | okta => cases known
  | generic => cases known

end Server
end QuackOauth
