import QuackOauth.Lib.Fallible
import QuackOauth.Secret.Create
import QuackOauth.Server.Provider

/-!
# The configuration of the server

What a token is validated against comes from the settings, from the active secret, and
from the preset of a provider for what the secret leaves empty.  A configuration that
loads names a place to ask that passed the checks of a URL.
-/

namespace QuackOauth
namespace Server

open Lib Separator Http Secret

/-- The settings that the server reads; none for one that is unset or null. -/
structure Settings where
  validationMode : Option String := none
  provider : Option String := none
  serverSecretName : Option String := none
  clockSkewS : Option Int := none
  policyDefault : Option String := none

structure ServerConfig where
  mode : String := ""
  issuer : String := ""
  audience : String := ""
  clockSkewS : Int := 60
  jwksUri : String := ""
  introspectionEndpoint : String := ""
  introspectClientId : String := ""
  introspectClientSecret : String := ""
  deriving DecidableEq, Repr

/-- A number brought between two bounds. -/
def clamp (value low high : Int) : Int :=
  if value < low then low else if high < value then high else value

def readStringSetting (setting : Option String) : String :=
  setting.getD ""

/-- The secret and the settings as they are. -/
def readServerConfigCore (settings : Settings) (accessor : SecretAccessor) : ServerConfig where
  mode :=
    if readStringSetting settings.validationMode = "" then "jwks"
    else readStringSetting settings.validationMode
  issuer := accessor.get "issuer"
  audience := accessor.get "audience"
  clockSkewS := clamp (settings.clockSkewS.getD 60) 0 3600
  jwksUri := accessor.get "jwks_uri"
  introspectionEndpoint := accessor.get "introspection_endpoint"
  introspectClientId := accessor.get "introspect_client_id"
  introspectClientSecret := accessor.get "introspect_client_secret"

/-- A field of the secret, or the preset's where the secret has none. -/
def orPreset (field preset : String) : String :=
  if field = "" then preset else field

/-- Fill what the secret leaves empty from the provider's preset. -/
def applyProviderPreset
    (settings : Settings)
    (accessor : SecretAccessor)
    (cfg : ServerConfig) : Except Failure ServerConfig :=
  let providerName := readStringSetting settings.provider
  if providerName = "" ∨ providerName = "generic" then .ok cfg
  else
    let providerId := providerFromString providerName
    if providerId = .okta ∧ (cfg.issuer = "" ∨ cfg.jwksUri = "") then
      .error (.invalidInput ("quack_oauth: provider preset 'okta' is reserved for future " ++
        "auto-fill; please configure `issuer` and `jwks_uri` explicitly on the SECRET " ++
        "(or use provider='generic')."))
    else
      let tenantOrRealm := accessor.get "tenant_or_realm"
      if providerId ≠ .google ∧ tenantOrRealm = "" then
        .error (.invalidInput ("quack_oauth provider preset '" ++ providerName ++
          "' requires `tenant_or_realm` on the active SECRET (set it to the tenant id / " ++
          "realm URL / GitHub App client_id depending on the provider)."))
      else
        let resolved := resolveProvider providerId tenantOrRealm
        .ok { cfg with
          issuer := orPreset cfg.issuer resolved.issuer
          jwksUri := orPreset cfg.jwksUri resolved.jwksUri
          introspectionEndpoint :=
            orPreset cfg.introspectionEndpoint resolved.introspectionEndpoint
          introspectClientId :=
            if providerId = .github then orPreset cfg.introspectClientId tenantOrRealm
            else cfg.introspectClientId
          mode := if providerId = .github ∧ cfg.mode = "jwks" then "github_check"
            else cfg.mode }

/-- The error for a field that a mode requires. -/
def missing (secretName rest : String) : Failure :=
  .invalidInput ("quack_oauth_check_token: SECRET '" ++ secretName ++ "' is missing " ++ rest)

/-- A URL that has to be there and to pass the checks. -/
def requireUrl (fieldName url : String) (absent : Failure) : Except Failure Unit :=
  if url = "" then .error absent
  else
    match validateHttpUrl fieldName url with
    | .error message => .error (.invalidInput message)
    | .ok () => .ok ()

/-- The checks of a mode, in the order of the source. -/
def validateServerConfig (cfg : ServerConfig) (secretName : String) : Except Failure Unit :=
  if cfg.mode = "jwks" then
    requireUrl "jwks_uri" cfg.jwksUri
      (missing secretName "`jwks_uri` (required for validation_mode='jwks')")
  else if cfg.mode = "introspect" then
    requireUrl "introspection_endpoint" cfg.introspectionEndpoint
      (missing secretName
        "`introspection_endpoint` (required for validation_mode='introspect')")
  else if cfg.mode = "tokeninfo" then
    requireUrl "introspection_endpoint" cfg.introspectionEndpoint
      (missing secretName ("`introspection_endpoint` (required for " ++
        "validation_mode='tokeninfo' -- use the IdP's tokeninfo URL, e.g. " ++
        "https://oauth2.googleapis.com/tokeninfo)"))
  else if cfg.mode = "github_check" then
    if cfg.introspectionEndpoint = "" then
      .error (missing secretName ("`introspection_endpoint` (set to GitHub's " ++
        "`applications/\x7bclient_id\x7d/token` URL, or rely on the " ++
        "`provider='github'` preset which fills it from tenant_or_realm)."))
    else if cfg.introspectClientId = "" ∨ cfg.introspectClientSecret = "" then
      .error (missing secretName ("`introspect_client_id` / `introspect_client_secret` " ++
        "(GitHub App credentials, required for HTTP Basic on the " ++
        "/applications/\x7bclient_id\x7d/token endpoint)."))
    else
      requireUrl "introspection_endpoint" cfg.introspectionEndpoint
        (missing secretName "`introspection_endpoint`")
  else
    .error (.invalidInput ("quack_oauth_check_token: unknown validation_mode '" ++ cfg.mode ++
      "' (expected 'jwks', 'introspect', 'tokeninfo', or 'github_check')"))

/-- The configuration to validate tokens against. -/
def loadServerConfig
    (settings : Settings)
    (getSecretByName : String → Option SecretEntry) : Except Failure ServerConfig := do
  let secretName := readStringSetting settings.serverSecretName
  if secretName = "" then
    .error (.invalidInput ("quack_oauth_check_token requires SET " ++
      "quack_oauth_server_secret_name to name the TYPE=quack_oauth_server SECRET to " ++
      "validate against."))
  else
    let accessor ← openSecret getSecretByName secretName none "quack_oauth_check_token"
    let cfg ← applyProviderPreset settings accessor (readServerConfigCore settings accessor)
    validateServerConfig cfg secretName
    pure cfg

/-- The name of the policy table. -/
def lookupPolicyTable
    (settings : Settings)
    (getSecretByName : String → Option SecretEntry) : String :=
  match settings.serverSecretName with
  | none => ""
  | some secretName =>
      (tryOpenSecret getSecretByName secretName (some "quack_oauth_server")).get "policy_table"

/-- Whether what no rule decides is allowed. -/
def lookupDefaultAllow (settings : Settings) : Bool :=
  match settings.policyDefault with
  | none => false
  | some s => s = "allow"

def lookupClockSkew (settings : Settings) : Int :=
  match settings.clockSkewS with
  | none => 60
  | some value => clamp value 0 3600

/-! ## Configurations that load -/

/-- Where a configuration sends its requests. -/
def ServerConfig.endpoint (cfg : ServerConfig) : String :=
  if cfg.mode = "jwks" then cfg.jwksUri else cfg.introspectionEndpoint

def knownModes : List String :=
  ["jwks", "introspect", "tokeninfo", "github_check"]

variable {settings : Settings} {getSecretByName : String → Option SecretEntry}
variable {cfg : ServerConfig}
variable {accessor : SecretAccessor} {secretName : String}

theorem clamp_bounds
    {low high : Int}
    (ordered : low ≤ high)
    (value : Int) :
    low ≤ clamp value low high ∧ clamp value low high ≤ high := by
  unfold clamp
  split_ifs <;> omega

theorem orPreset_of_ne
    {field : String}
    (given : field ≠ "")
    (preset : String) :
    orPreset field preset = field :=
  if_neg given

/-- What the stages of loading did. -/
structure Loads
    (settings : Settings)
    (getSecretByName : String → Option SecretEntry)
    (accessor : SecretAccessor)
    (cfg : ServerConfig) : Prop where
  opens : openSecret getSecretByName (readStringSetting settings.serverSecretName) none
    "quack_oauth_check_token" = .ok accessor
  presets : applyProviderPreset settings accessor (readServerConfigCore settings accessor) =
    .ok cfg
  validates : validateServerConfig cfg (readStringSetting settings.serverSecretName) = .ok ()

theorem loads_of_loadServerConfig
    (loaded : loadServerConfig settings getSecretByName = .ok cfg) :
    ∃ accessor, Loads settings getSecretByName accessor cfg := by
  unfold loadServerConfig at loaded
  dsimp only at loaded
  split at loaded
  · cases loaded
  · obtain ⟨accessor, opens, loaded⟩ := Fallible.bind_eq_ok_iff.mp loaded
    obtain ⟨preset, presets, loaded⟩ := Fallible.bind_eq_ok_iff.mp loaded
    obtain ⟨checked, validates, loaded⟩ := Fallible.bind_eq_ok_iff.mp loaded
    cases loaded
    exact ⟨accessor, opens, presets, validates⟩

/-- What a preset that is named fills in. -/
structure Filled
    (id : ProviderId)
    (tenantOrRealm : String)
    (core cfg : ServerConfig) : Prop where
  issuer : cfg.issuer = orPreset core.issuer (resolveProvider id tenantOrRealm).issuer
  jwksUri : cfg.jwksUri = orPreset core.jwksUri (resolveProvider id tenantOrRealm).jwksUri
  introspectionEndpoint : cfg.introspectionEndpoint =
    orPreset core.introspectionEndpoint (resolveProvider id tenantOrRealm).introspectionEndpoint
  introspectClientId : cfg.introspectClientId =
    if id = .github then orPreset core.introspectClientId tenantOrRealm
    else core.introspectClientId
  introspectClientSecret : cfg.introspectClientSecret = core.introspectClientSecret
  audience : cfg.audience = core.audience
  clockSkewS : cfg.clockSkewS = core.clockSkewS
  mode : cfg.mode = if id = .github ∧ core.mode = "jwks" then "github_check" else core.mode

theorem filled_of_applyProviderPreset
    {core : ServerConfig}
    (presets : applyProviderPreset settings accessor core = .ok cfg) :
    (readStringSetting settings.provider ∈ ["", "generic"] ∧ cfg = core) ∨
      Filled (providerFromString (readStringSetting settings.provider))
        (accessor.get "tenant_or_realm") core cfg := by
  unfold applyProviderPreset at presets
  dsimp only at presets
  split at presets
  · next unnamed =>
      cases presets
      exact .inl ⟨by simpa using unnamed, rfl⟩
  · split at presets
    · cases presets
    · split at presets
      · cases presets
      · cases presets
        exact .inr ⟨rfl, rfl, rfl, rfl, rfl, rfl, rfl, rfl⟩

/-- What the preset leaves of the secret and the settings. -/
structure KeepsExplicit (core cfg : ServerConfig) : Prop where
  issuer : core.issuer ≠ "" → cfg.issuer = core.issuer
  jwksUri : core.jwksUri ≠ "" → cfg.jwksUri = core.jwksUri
  introspectionEndpoint :
    core.introspectionEndpoint ≠ "" → cfg.introspectionEndpoint = core.introspectionEndpoint
  introspectClientId :
    core.introspectClientId ≠ "" → cfg.introspectClientId = core.introspectClientId
  introspectClientSecret : cfg.introspectClientSecret = core.introspectClientSecret
  audience : cfg.audience = core.audience
  clockSkewS : cfg.clockSkewS = core.clockSkewS
  mode : cfg.mode = core.mode ∨ core.mode = "jwks" ∧ cfg.mode = "github_check"

/-- A preset replaces no field that is given. -/
theorem keepsExplicit_of_applyProviderPreset
    {core : ServerConfig}
    (presets : applyProviderPreset settings accessor core = .ok cfg) :
    KeepsExplicit core cfg := by
  rcases filled_of_applyProviderPreset presets with ⟨-, rfl⟩ | filled
  · exact ⟨fun _ => rfl, fun _ => rfl, fun _ => rfl, fun _ => rfl, rfl, rfl, rfl, .inl rfl⟩
  · constructor
    · exact fun given => filled.issuer.trans (orPreset_of_ne given _)
    · exact fun given => filled.jwksUri.trans (orPreset_of_ne given _)
    · exact fun given => filled.introspectionEndpoint.trans (orPreset_of_ne given _)
    · intro given
      rw [filled.introspectClientId]
      split_ifs
      · exact orPreset_of_ne given _
      · rfl
    · exact filled.introspectClientSecret
    · exact filled.audience
    · exact filled.clockSkewS
    · rw [filled.mode]
      split_ifs with promoted
      · exact .inr ⟨promoted.2, rfl⟩
      · exact .inl rfl

theorem of_requireUrl
    {fieldName url : String}
    {absent : Failure}
    (passed : requireUrl fieldName url absent = .ok ()) :
    url ≠ "" ∧ validateHttpUrl fieldName url = .ok () := by
  unfold requireUrl at passed
  split at passed
  · cases passed
  · next given =>
      split at passed
      · cases passed
      · next accepted => exact ⟨given, accepted⟩

/-- What a mode needs. -/
structure Complete (cfg : ServerConfig) : Prop where
  mode : cfg.mode ∈ knownModes
  endpoint_ne : cfg.endpoint ≠ ""
  credentials : cfg.mode = "github_check" →
    cfg.introspectClientId ≠ "" ∧ cfg.introspectClientSecret ≠ ""

/-- A configuration that is complete, and asks a place that passes the check of a URL. -/
structure Usable (cfg : ServerConfig) : Prop extends Complete cfg where
  checked : ∃ fieldName, validateHttpUrl fieldName cfg.endpoint = .ok ()

/-- The name of a field is only for the error. -/
theorem validateHttpUrl_eq_ok_of
    {fieldName url : String}
    (accepted : validateHttpUrl fieldName url = .ok ())
    (otherName : String) :
    validateHttpUrl otherName url = .ok () := by
  unfold validateHttpUrl at accepted ⊢
  split_ifs at accepted ⊢ <;> rfl

theorem requireUrl_eq_ok_iff
    {fieldName url : String}
    {absent : Failure} :
    requireUrl fieldName url absent = .ok () ↔
      url ≠ "" ∧ ∃ otherName, validateHttpUrl otherName url = .ok () := by
  constructor
  · intro passed
    obtain ⟨given, accepted⟩ := of_requireUrl passed
    exact ⟨given, fieldName, accepted⟩
  · rintro ⟨given, otherName, accepted⟩
    unfold requireUrl
    rw [if_neg given, validateHttpUrl_eq_ok_of accepted fieldName]

/-- With everything else in place, a configuration is usable if its place passes. -/
theorem requireUrl_eq_ok_iff_usable
    {fieldName url : String}
    {absent : Failure}
    (asked : cfg.endpoint = url)
    (mode : cfg.mode ∈ knownModes)
    (credentials : cfg.mode = "github_check" →
      cfg.introspectClientId ≠ "" ∧ cfg.introspectClientSecret ≠ "") :
    requireUrl fieldName url absent = .ok () ↔ Usable cfg := by
  rw [requireUrl_eq_ok_iff, ← asked]
  constructor
  · rintro ⟨given, accepted⟩
    exact ⟨⟨mode, given, credentials⟩, accepted⟩
  · intro usable
    exact ⟨usable.endpoint_ne, usable.checked⟩

/-- Every mode checks the place that it asks at, and what it needs. -/
theorem validateServerConfig_eq_ok_iff :
    validateServerConfig cfg secretName = .ok () ↔ Usable cfg := by
  unfold validateServerConfig
  split_ifs with jwks introspect tokeninfo github absent incomplete
  · exact requireUrl_eq_ok_iff_usable (if_pos jwks) (by simp [knownModes, jwks])
      (by simp [jwks])
  · exact requireUrl_eq_ok_iff_usable (if_neg jwks) (by simp [knownModes, introspect])
      (by simp [introspect])
  · exact requireUrl_eq_ok_iff_usable (if_neg jwks) (by simp [knownModes, tokeninfo])
      (by simp [tokeninfo])
  · have asked : cfg.endpoint = "" := (if_neg jwks).trans absent
    exact ⟨fun impossible => (by cases impossible),
      fun usable => absurd asked usable.endpoint_ne⟩
  · refine ⟨fun impossible => (by cases impossible), fun usable => ?_⟩
    obtain ⟨hasId, hasSecret⟩ := usable.credentials github
    exact absurd incomplete (not_or_intro hasId hasSecret)
  · exact requireUrl_eq_ok_iff_usable (if_neg jwks) (by simp [knownModes, github])
      fun _ => not_or.mp incomplete
  · refine ⟨fun impossible => (by cases impossible), fun usable => ?_⟩
    have known := usable.mode
    simp [knownModes, jwks, introspect, tokeninfo, github] at known

/-- Stages that all do what they should load a configuration. -/
theorem loadServerConfig_of_loads
    (named : readStringSetting settings.serverSecretName ≠ "")
    (loads : Loads settings getSecretByName accessor cfg) :
    loadServerConfig settings getSecretByName = .ok cfg := by
  unfold loadServerConfig
  dsimp only
  rw [if_neg named, loads.opens]
  exact Fallible.bind_eq_ok_iff.mpr ⟨accessor, rfl, Fallible.bind_eq_ok_iff.mpr
    ⟨cfg, loads.presets, Fallible.bind_eq_ok_iff.mpr ⟨(), loads.validates, rfl⟩⟩⟩

/-- The place that a created secret gives passes the check of a URL. -/
theorem checked_readServerConfigCore
    {input : CreateSecretInput}
    {entry : SecretEntry}
    {kv : KeyValueSecret}
    (created : createServerSecret input = .ok kv) :
    ∃ fieldName, validateHttpUrl fieldName
      (readServerConfigCore settings { entry := some entry, kv := some kv }).endpoint =
        .ok () := by
  obtain ⟨keysChecked, endpointChecked⟩ := endpoints_of_createServerSecret created
  unfold ServerConfig.endpoint
  split
  · exact ⟨_, keysChecked⟩
  · exact ⟨_, endpointChecked⟩

/-- The checks at creation are those of loading: without a preset, the configuration of a
secret that `CREATE SECRET` built loads exactly if it has what its mode needs. -/
theorem loadServerConfig_created_iff
    (settings : Settings)
    (getSecretByName : String → Option SecretEntry)
    (entry : SecretEntry)
    (kv : KeyValueSecret)
    (input : CreateSecretInput)
    (named : readStringSetting settings.serverSecretName ≠ "")
    (stored : getSecretByName (readStringSetting settings.serverSecretName) =
      some entry)
    (secret_eq : entry.secret = .keyValue kv)
    (created : createServerSecret input = .ok kv)
    (generic : readStringSetting settings.provider ∈ ["", "generic"]) :
    (∃ cfg, loadServerConfig settings getSecretByName = .ok cfg) ↔
      Complete
        (readServerConfigCore settings { entry := some entry, kv := some kv }) := by
  have opens : openSecret getSecretByName (readStringSetting settings.serverSecretName) none
      "quack_oauth_check_token" = .ok { entry := some entry, kv := some kv } := by
    unfold openSecret
    rw [if_neg named, stored]
    dsimp only
    rw [secret_eq]
  have unset : readStringSetting settings.provider = "" ∨
      readStringSetting settings.provider = "generic" := by
    simpa using generic
  have presets : applyProviderPreset settings { entry := some entry, kv := some kv }
      (readServerConfigCore settings { entry := some entry, kv := some kv }) =
        .ok (readServerConfigCore settings { entry := some entry, kv := some kv }) :=
    if_pos unset
  constructor
  · rintro ⟨cfg, loaded⟩
    obtain ⟨accessor, loads⟩ := loads_of_loadServerConfig loaded
    cases opens.symm.trans loads.opens
    cases presets.symm.trans loads.presets
    exact (validateServerConfig_eq_ok_iff.mp loads.validates).toComplete
  · intro complete
    exact ⟨_, loadServerConfig_of_loads named ⟨opens, presets,
      validateServerConfig_eq_ok_iff.mpr ⟨complete, checked_readServerConfigCore created⟩⟩⟩

/-- The options of a secret for a tenant of Entra. -/
def sampleInput : CreateSecretInput where
  type := "quack_oauth_server"
  options := (AList.insert "tenant_or_realm" "contoso" ∅).insert "audience" "api"

/-- The secret that they create. -/
def sampleTenant : KeyValueSecret where
  type := "quack_oauth_server"
  secretMap := (AList.insert "audience" "api" ∅).insert "tenant_or_realm" "contoso"

/-- The only secret is that of the tenant. -/
def sampleTenants (secretName : String) : Option SecretEntry :=
  if secretName = "srv" then some { secret := .keyValue sampleTenant } else none

/-- The preset of Entra. -/
def sampleSettings : Settings where
  provider := some "Entra"
  serverSecretName := some "srv"

/-- The configuration that it makes of the secret. -/
def sampleConfig : ServerConfig where
  mode := "jwks"
  issuer := "https://login.microsoftonline.com/contoso/v2.0"
  audience := "api"
  jwksUri := "https://login.microsoftonline.com/contoso/discovery/v2.0/keys"

theorem loadServerConfig_created_sample :
    (∃ cfg, loadServerConfig { serverSecretName := some "srv" } sampleTenants = .ok cfg) ↔
      Complete (readServerConfigCore { serverSecretName := some "srv" }
        { entry := some { secret := .keyValue sampleTenant }, kv := some sampleTenant }) :=
  loadServerConfig_created_iff { serverSecretName := some "srv" } sampleTenants
    { secret := .keyValue sampleTenant } sampleTenant sampleInput (by decide) (by rfl) rfl
    (by rfl) (by decide)

/-- A configuration that loads asks a place that is named and passed the checks, so that
without TLS only this machine is contacted if the place is written plainly; it is complete
for its mode; what the secret gives is kept; and the clock skew is within an hour. -/
theorem loadServerConfig_usable
    (settings : Settings)
    (getSecretByName : String → Option SecretEntry)
    (cfg : ServerConfig)
    (loaded : loadServerConfig settings getSecretByName = .ok cfg) :
    Usable cfg ∧ CheckedEndpoint cfg.endpoint ∧
      (0 ≤ cfg.clockSkewS ∧ cfg.clockSkewS ≤ 3600) ∧
      ∃ entry kv accessor,
        Opened getSecretByName (readStringSetting settings.serverSecretName) none accessor
          entry kv ∧
        KeepsExplicit (readServerConfigCore settings accessor) cfg := by
  obtain ⟨accessor, opens, presets, validates⟩ := loads_of_loadServerConfig loaded
  obtain ⟨entry, kv, opened⟩ := opened_of_openSecret opens
  have usable := validateServerConfig_eq_ok_iff.mp validates
  have keeps := keepsExplicit_of_applyProviderPreset presets
  obtain ⟨fieldName, accepted⟩ := usable.checked
  refine ⟨usable, checkedEndpoint_of_validateHttpUrl accepted usable.endpoint_ne, ?_,
    entry, kv, accessor, opened, keeps⟩
  rw [keeps.clockSkewS]
  exact clamp_bounds (by decide) _

theorem loadServerConfig_usable_sample :
    Usable sampleConfig ∧ CheckedEndpoint sampleConfig.endpoint ∧
      (0 ≤ sampleConfig.clockSkewS ∧ sampleConfig.clockSkewS ≤ 3600) ∧
      ∃ entry kv accessor,
        Opened sampleTenants (readStringSetting sampleSettings.serverSecretName) none accessor
          entry kv ∧
        KeepsExplicit (readServerConfigCore sampleSettings accessor) sampleConfig :=
  loadServerConfig_usable sampleSettings sampleTenants sampleConfig (by rfl)

/-- Under a preset that knows its host, the configuration asks that host, whatever the
tenant, unless the secret names another place. -/
theorem loadServerConfig_presetHost
    (settings : Settings)
    (getSecretByName : String → Option SecretEntry)
    (cfg : ServerConfig)
    (host : String)
    (loaded : loadServerConfig settings getSecretByName = .ok cfg)
    (known : presetHost (providerFromString (readStringSetting settings.provider))
      cfg.mode = some host)
    (unnamed : ∀ accessor,
      openSecret getSecretByName (readStringSetting settings.serverSecretName) none
          "quack_oauth_check_token" = .ok accessor →
        (readServerConfigCore settings accessor).jwksUri = "" ∧
          (readServerConfigCore settings accessor).introspectionEndpoint = "") :
    ∃ path, parseUrl cfg.endpoint = some { scheme := "https", host, port := 443, path } := by
  obtain ⟨accessor, opens, presets, -⟩ := loads_of_loadServerConfig loaded
  obtain ⟨noJwksUri, noEndpoint⟩ := unnamed accessor opens
  rcases filled_of_applyProviderPreset presets with ⟨unset, -⟩ | filled
  · have isGeneric : providerFromString (readStringSetting settings.provider) = .generic := by
      rcases List.mem_pair.mp unset with isEmpty | isGeneric
      · rw [isEmpty]
        rfl
      · rw [isGeneric]
        rfl
    rw [isGeneric] at known
    cases known
  · obtain ⟨path, parsed⟩ := parseUrl_endpoint_resolveProvider known
      (accessor.get "tenant_or_realm")
    refine ⟨path, ?_⟩
    rw [← parsed]
    unfold ServerConfig.endpoint ProviderResolved.endpoint
    rw [filled.jwksUri, filled.introspectionEndpoint, orPreset, orPreset, if_pos noJwksUri,
      if_pos noEndpoint]

theorem loadServerConfig_presetHost_sample :
    ∃ path, parseUrl sampleConfig.endpoint =
      some { scheme := "https", host := "login.microsoftonline.com", port := 443, path } :=
  loadServerConfig_presetHost sampleSettings sampleTenants sampleConfig
    "login.microsoftonline.com" (by rfl) (by decide) (by
      intro accessor opens
      cases opens
      exact ⟨by decide, by decide⟩)

end Server
end QuackOauth
