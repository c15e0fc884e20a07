import QuackOauth.Acquire.Lineage

/-!
# Tokens and configurations belong together

Whatever is stored under a name goes back to one secret that a user gave, and so does
every request of a call on the name.  A token of that secret, or issued by its endpoint,
is never sent elsewhere, in whichever order the secrets were replaced, refreshed and
written back.
-/

namespace QuackOauth
namespace Acquire

open Lib Jwt Secret Form
open Requests (PostRequestBytes)
open Validator (Response)

namespace Client

variable {State Event : Type} {platform : Platform State Event} {start : State}
variable {labels : List (Label Event)} {label : Label Event}
variable {secretName : String} {given entry : SecretEntry} {givenKv kv : KeyValueSecret}
variable {number : Nat} {flow : Flow} {accessor : SecretAccessor}
variable {auth : DeviceAuthorizationResponse} {deadlineMs : Int}

/-! ## Stored secrets -/

/-- A user gave a secret under a name, before the run or in it. -/
def Gives
    (platform : Platform State Event)
    (start : State)
    (labels : List (Label Event))
    (secretName : String)
    (given : SecretEntry) : Prop :=
  platform.secretManager.CanFind start secretName given ∨
    ∃ transaction, .createSecret transaction secretName given ∈ labels

/-- A call on a name was given tokens by an endpoint. -/
def Issued
    (platform : Platform State Event)
    (start : State)
    (labels : List (Label Event))
    (secretName endpoint : String)
    (tokens : TokenResponse)
    (nowS : Int) : Prop :=
  Machine.Occurs (step platform) (Issues platform secretName endpoint tokens nowS)
    (initial start) labels

/-- A secret goes back to another that a user gave. -/
structure Origin
    (platform : Platform State Event)
    (start : State)
    (labels : List (Label Event))
    (secretName : String)
    (given : SecretEntry)
    (givenKv : KeyValueSecret)
    (entry : SecretEntry)
    (kv : KeyValueSecret) : Prop where
  gives : Gives platform start labels secretName given
  given_eq : given.secret = .keyValue givenKv
  kept : entry.persistType = given.persistType ∧ entry.storageMode = given.storageMode
  type_eq : kv.type = givenKv.type
  config : ∀ field, field ∉ tokenFields →
    kv.secretMap.lookup field = givenKv.secretMap.lookup field
  /-- An access token and its expiry are of one source. -/
  accessToken : accessTokenOf kv = accessTokenOf givenKv ∨
    accessTokenOf kv = (none, none) ∨
    ∃ tokens nowS, Issued platform start labels secretName (valueOf givenKv "token_endpoint")
        tokens nowS ∧
      accessTokenOf kv =
        (some tokens.accessToken, some (isoOf platform (nowS + tokens.expiresIn)))
  refreshToken : kv.secretMap.lookup "refresh_token" =
      givenKv.secretMap.lookup "refresh_token" ∨
    kv.secretMap.lookup "refresh_token" = none ∨
    ∃ tokens nowS, Issued platform start labels secretName (valueOf givenKv "token_endpoint")
        tokens nowS ∧
      kv.secretMap.lookup "refresh_token" = some tokens.refreshToken

namespace Origin

theorem given_self
    (gives : Gives platform start labels secretName given)
    (given_eq : given.secret = .keyValue givenKv) :
    Origin platform start labels secretName given givenKv given givenKv where
  gives := gives
  given_eq := given_eq
  kept := ⟨rfl, rfl⟩
  type_eq := rfl
  config := fun _ _ => rfl
  accessToken := .inl rfl
  refreshToken := .inl rfl

theorem lasts
    (origin : Origin platform start labels secretName given givenKv entry kv)
    (label : Label Event) :
    Origin platform start (labels ++ [label]) secretName given givenKv entry kv where
  gives := origin.gives.imp id fun ⟨transaction, created⟩ =>
    ⟨transaction, List.mem_append_left _ created⟩
  given_eq := origin.given_eq
  kept := origin.kept
  type_eq := origin.type_eq
  config := origin.config
  accessToken := origin.accessToken.imp id <| Or.imp id fun ⟨tokens, nowS, issued, same⟩ =>
    ⟨tokens, nowS, issued.append _, same⟩
  refreshToken := origin.refreshToken.imp id <| Or.imp id fun ⟨tokens, nowS, issued, same⟩ =>
    ⟨tokens, nowS, issued.append _, same⟩

/-- The configuration of a secret reads as the user gave it. -/
theorem valueOf_eq
    (origin : Origin platform start labels secretName given givenKv entry kv)
    {field : String}
    (isConfig : field ∉ tokenFields) :
    valueOf kv field = valueOf givenKv field := by
  unfold valueOf
  rw [origin.config field isConfig]

theorem loggedOut
    (origin : Origin platform start labels secretName given givenKv entry kv) :
    Origin platform start labels secretName given givenKv
      { entry with secret := .keyValue (withoutTokenFields kv) } (withoutTokenFields kv) where
  gives := origin.gives
  given_eq := origin.given_eq
  kept := origin.kept
  type_eq := origin.type_eq
  config := by
    intro field isConfig
    rw [lookup_withoutTokenFields, if_neg isConfig, origin.config field isConfig]
  accessToken := .inr (.inl (accessTokenOf_withoutTokenFields kv))
  refreshToken := by
    refine .inr (.inl ?_)
    rw [lookup_withoutTokenFields, if_pos (by decide)]

theorem persisted
    {tokens : TokenResponse}
    {nowS : Int}
    (origin : Origin platform start labels secretName given givenKv entry kv)
    (issued : Issued platform start labels secretName (valueOf kv "token_endpoint") tokens
      nowS)
    (flowFn : FlowFn) :
    Origin platform start labels secretName given givenKv
      { entry with secret := .keyValue (withTokenFields kv tokens.accessToken
        (isoOf platform (nowS + tokens.expiresIn)) (persistedRefreshToken flowFn tokens)) }
      (withTokenFields kv tokens.accessToken (isoOf platform (nowS + tokens.expiresIn))
        (persistedRefreshToken flowFn tokens)) where
  gives := origin.gives
  given_eq := origin.given_eq
  kept := origin.kept
  type_eq := origin.type_eq
  config := by
    intro field isConfig
    obtain ⟨noAccess, noRefresh, noExpiry⟩ : field ≠ "access_token" ∧
        field ≠ "refresh_token" ∧ field ≠ "expires_at" := by
      simpa [tokenFields] using isConfig
    rw [lookup_withTokenFields, if_neg fun rotated => noRefresh rotated.1, if_neg noExpiry,
      if_neg noAccess, origin.config field isConfig]
  accessToken := by
    rw [origin.valueOf_eq (by decide)] at issued
    exact .inr (.inr ⟨tokens, nowS, issued, accessTokenOf_withTokenFields _ _ _ _⟩)
  refreshToken := by
    rw [origin.valueOf_eq (by decide)] at issued
    rcases refreshToken_withTokenFields kv tokens.accessToken
      (isoOf platform (nowS + tokens.expiresIn)) flowFn tokens with unrotated | rotated
    · rw [unrotated]
      exact origin.refreshToken
    · exact .inr (.inr ⟨tokens, nowS, issued, rotated⟩)

end Origin

/-- Whatever is held under a name goes back to a secret that a user gave. -/
theorem origin_of_held
    (findsRegistered : platform.secretManager.FindsRegistered)
    (held : Held platform (run platform (initial start) labels) secretName entry kv) :
    ∃ given givenKv, Origin platform start labels secretName given givenKv entry kv := by
  apply held_run findsRegistered (fun labels secretName entry kv =>
    ∃ given givenKv, Origin platform start labels secretName given givenKv entry kv)
    ?_ ?_ ?_ ?_ ?_ labels held
  · rintro labels label secretName entry kv ⟨given, givenKv, origin⟩
    exact ⟨given, givenKv, origin.lasts label⟩
  · intro secretName entry kv atStart
    cases atStart with
    | stored canFind secret_eq =>
        exact ⟨entry, kv, Origin.given_self (.inl canFind) secret_eq⟩
    | copied number flow onItsWay => cases onItsWay
  · intro labels transaction secretName entry kv secret_eq
    exact ⟨entry, kv, Origin.given_self
      (.inr ⟨transaction, List.mem_append_right _ (List.mem_singleton.mpr rfl)⟩) secret_eq⟩
  · rintro labels label secretName entry kv ⟨given, givenKv, origin⟩
    exact ⟨given, givenKv, (origin.lasts label).loggedOut⟩
  · rintro labels label number flow entry kv tokens nowS ⟨given, givenKv, origin⟩ progress
    have issued : Issued platform start (labels ++ [label]) flow.secretName
        (valueOf kv "token_endpoint") tokens nowS :=
      Machine.Occurs.last (issues_of_progress (asking_run platform start labels) progress)
    exact ⟨given, givenKv, (origin.lasts label).persisted issued flow.flowFn⟩

/-- A secret that can be found under a name goes back to one that a user gave under the
name: it is kept the same way, has the same configuration, and its tokens are the user's or
were issued by the endpoint of that configuration. -/
theorem stored_origin
    (platform : Platform State Event)
    (start : State)
    (labels : List (Label Event))
    (secretName : String)
    (entry : SecretEntry)
    (kv : KeyValueSecret)
    (findsRegistered : platform.secretManager.FindsRegistered)
    (canFind : platform.secretManager.CanFind (run platform (initial start) labels).secrets
      secretName entry)
    (secret_eq : entry.secret = .keyValue kv) :
    ∃ given givenKv, Origin platform start labels secretName given givenKv entry kv :=
  origin_of_held findsRegistered (.stored canFind secret_eq)

/-- The sample secret with the token of the sample answer. -/
def refreshedSecret : KeyValueSecret :=
  withTokenFields sampleSecret "a" "1970-01-01T01:16:40Z" ""

theorem stored_origin_sample :
    ∃ given givenKv, Origin samplePlatform sampleSecrets sampleRefresh "s" given givenKv
      { secret := .keyValue refreshedSecret } refreshedSecret :=
  stored_origin samplePlatform sampleSecrets sampleRefresh "s"
    { secret := .keyValue refreshedSecret } refreshedSecret
    SecretManager.sequential_findsRegistered
    (SecretManager.sequential_canFind_iff.mpr (by rfl)) rfl

/-! ## Requests -/

/-- A device authorization that an endpoint gives to a call, at a time. -/
inductive Authorizes
    (platform : Platform State Event)
    (number : Nat)
    (endpoint : String)
    (auth : DeviceAuthorizationResponse)
    (startMs : Int)
    (client : Client State)
    (label : Label Event) : Prop
  | answered
      (flow : Flow)
      (request : PostRequestBytes)
      (response : Option Response)
      (onItsWay : client.flows.lookup number = some flow)
      (asked : flow.request = some request)
      (url_eq : request.url = bytesOf endpoint)
      (arrives : label = .authorizationResponse number response startMs)
      (read : authorizationOf platform.backend response = some auth) :
      Authorizes platform number endpoint auth startMs client label

/-- The authorization that a polling call holds, with its copy and its deadline. -/
def authorizationAt : Stage → Option (SecretAccessor × DeviceAuthorizationResponse × Int)
  | .waiting accessor auth _ deadlineMs | .polling accessor auth _ deadlineMs =>
      some (accessor, auth, deadlineMs)
  | _ => none

theorem authorizationAt_of_beginFlow
    {getSecretByName : String → Option SecretEntry}
    {flowFn : FlowFn}
    {stage : Stage}
    (begun : beginFlow getSecretByName flowFn secretName = .ok stage) :
    authorizationAt stage = none := by
  cases begins_of_beginFlow begun with
  | login => rfl
  | refresh => rfl
  | deviceLogin => rfl

/-- A call polls for an authorization that the device endpoint of its copy gave it, as long
as that lasts. -/
theorem authorized_of_polling
    (onItsWay : (run platform (initial start) labels).flows.lookup number = some flow)
    (polls : authorizationAt flow.stage = some (accessor, auth, deadlineMs)) :
    Machine.Occurs (step platform)
      (Authorizes platform number (accessor.get "device_authorization_endpoint") auth
        (deadlineMs - 1000 * lifetimeS auth)) (initial start) labels := by
  induction labels using List.reverseRecOn generalizing flow with
  | nil => cases onItsWay
  | append_singleton labels label inductionHypothesis =>
      rw [run, Machine.run_append] at onItsWay
      cases moves_step onItsWay with
      | stays _ earlier => exact (inductionHypothesis earlier polls).append _
      | called transaction flowFn secretName stage _ _ begun =>
          rw [authorizationAt_of_beginFlow begun] at polls
          cases polls
      | acquired => cases polls
      | persisted => cases polls
      | advanced before stage progress =>
          obtain ⟨isOf, isFound, made⟩ := progressOf_eq_some_iff.mp progress
          have advanced := advances platform
            (found platform (Machine.run (step platform) (initial start) labels)
              before.transaction) before label
          rw [made] at advanced
          cases advanced with
          | stays => exact (inductionHypothesis isFound polls).append _
          | opens _ starting begun =>
              rw [authorizationAt_of_beginFlow begun] at polls
              cases polls
          | authorized moved held response startMs answered asked arrives read =>
              cases polls
              subst arrives
              cases isOf
              obtain ⟨request, isOut, url_eq⟩ := asking_run platform start labels number
                before _ isFound (congrArg firstEndpoint asked)
              have began : startMs + 1000 * lifetimeS auth - 1000 * lifetimeS auth =
                  startMs := Int.add_sub_cancel _ _
              change Machine.Occurs (step platform) (Authorizes platform number _ auth
                (startMs + 1000 * lifetimeS auth - 1000 * lifetimeS auth)) _ _
              rw [began]
              exact Machine.Occurs.last
                (.answered before request response isFound isOut url_eq rfl read)
          | polls moved held answered intervalS deadlineMs nowMs isWaiting =>
              cases polls
              exact (inductionHypothesis isFound (congrArg authorizationAt isWaiting)).append _
          | waits moved held answered intervalS laterS deadlineMs answeredS response isPolling =>
              cases polls
              exact (inductionHypothesis isFound (congrArg authorizationAt isPolling)).append _

/-- The grants that calls ask for. -/
def grantTypes : List String :=
  ["client_credentials", "refresh_token", "urn:ietf:params:oauth:grant-type:device_code"]

/-- A parameter that a call on a name may send, with a secret that a user gave. -/
inductive Permitted
    (platform : Platform State Event)
    (start : State)
    (labels : List (Label Event))
    (number : Nat)
    (secretName : String)
    (givenKv : KeyValueSecret)
    (url : List UInt8) : List UInt8 × List UInt8 → Prop
  | grantType
      (grant : String)
      (known : grant ∈ grantTypes) :
      Permitted platform start labels number secretName givenKv url
        (bytesOf "grant_type", bytesOf grant)
  | clientId :
      Permitted platform start labels number secretName givenKv url
        (bytesOf "client_id", bytesOf (valueOf givenKv "client_id"))
  | scope :
      Permitted platform start labels number secretName givenKv url
        (bytesOf "scope", bytesOf (valueOf givenKv "scope"))
  /-- Refresh tokens go to the token endpoint, and are the user's or were issued by it. -/
  | refreshToken
      (refreshToken : String)
      (url_eq : url = bytesOf (valueOf givenKv "token_endpoint"))
      (own : givenKv.secretMap.lookup "refresh_token" = some refreshToken ∨
        ∃ tokens nowS, Issued platform start labels secretName
            (valueOf givenKv "token_endpoint") tokens nowS ∧
          refreshToken = tokens.refreshToken) :
      Permitted platform start labels number secretName givenKv url
        (bytesOf "refresh_token", bytesOf refreshToken)
  /-- Device codes go to the token endpoint, and are the device endpoint's, for the call. -/
  | deviceCode
      (auth : DeviceAuthorizationResponse)
      (startMs : Int)
      (url_eq : url = bytesOf (valueOf givenKv "token_endpoint"))
      (authorized : Machine.Occurs (step platform) (Authorizes platform number
        (valueOf givenKv "device_authorization_endpoint") auth startMs) (initial start)
          labels) :
      Permitted platform start labels number secretName givenKv url
        (bytesOf "device_code", bytesOf auth.deviceCode)

/-- What a request may carry: the credentials and parameters of one secret. -/
structure Entitled
    (platform : Platform State Event)
    (start : State)
    (labels : List (Label Event))
    (number : Nat)
    (secretName : String)
    (givenKv : KeyValueSecret)
    (request : PostRequestBytes) : Prop where
  url : request.url = bytesOf (valueOf givenKv "token_endpoint") ∨
    request.url = bytesOf (valueOf givenKv "device_authorization_endpoint")
  user : request.basicUser = [] ∨
    request.basicUser = bytesOf (valueOf givenKv "client_id")
  pass : request.basicPass = bytesOf (valueOf givenKv "client_secret")
  parameters : ∀ parameter ∈ decodeForm request.body,
    Permitted platform start labels number secretName givenKv request.url parameter

theorem mem_optional_iff
    {name : String}
    {value : List UInt8}
    {parameter : List UInt8 × List UInt8} :
    parameter ∈ Requests.optional name value ↔
      value ≠ [] ∧ parameter = (bytesOf name, value) := by
  unfold Requests.optional
  split
  · next empty => simp [empty]
  · next nonempty => simp [nonempty]

/-- A client is named in the header only if it has a secret. -/
theorem user_cases
    (clientId clientSecret : List UInt8) :
    (if clientSecret = [] then [] else clientId) = [] ∨
      (if clientSecret = [] then [] else clientId) = clientId := by
  split
  · exact .inl rfl
  · exact .inr rfl

section

variable {request : PostRequestBytes}
variable (origin : Origin platform start labels secretName given givenKv entry kv)
include origin

theorem entitled_login
    (asked : Requests.acquireTokenClientCredentials (bytesOf (valueOf kv "token_endpoint"))
      (bytesOf (valueOf kv "client_id")) (bytesOf (valueOf kv "client_secret"))
      (bytesOf (valueOf kv "scope")) = some request) :
    Entitled platform start labels number secretName givenKv request := by
  rw [origin.valueOf_eq (by decide), origin.valueOf_eq (by decide),
    origin.valueOf_eq (by decide), origin.valueOf_eq (by decide)] at asked
  unfold Requests.acquireTokenClientCredentials at asked
  split at asked
  · cases asked
  cases asked
  refine ⟨.inl rfl, .inr rfl, rfl, ?_⟩
  intro parameter sent
  dsimp only at sent ⊢
  rw [Requests.decodeForm_acquireTokenClientCredentials, List.mem_cons] at sent
  rcases sent with rfl | isScope
  · exact .grantType _ (by decide)
  · obtain ⟨-, rfl⟩ := mem_optional_iff.mp isScope
    exact .scope

theorem entitled_refresh
    (asked : Requests.acquireTokenRefreshToken (bytesOf (valueOf kv "token_endpoint"))
      (bytesOf (valueOf kv "client_id")) (bytesOf (valueOf kv "client_secret"))
      (bytesOf (valueOf kv "refresh_token")) (bytesOf (valueOf kv "scope")) =
        some request) :
    Entitled platform start labels number secretName givenKv request := by
  have own := origin.refreshToken
  rw [origin.valueOf_eq (by decide : "token_endpoint" ∉ tokenFields),
    origin.valueOf_eq (by decide : "client_id" ∉ tokenFields),
    origin.valueOf_eq (by decide : "client_secret" ∉ tokenFields),
    origin.valueOf_eq (by decide : "scope" ∉ tokenFields)] at asked
  unfold Requests.acquireTokenRefreshToken at asked
  split at asked
  · cases asked
  rename_i incomplete
  cases asked
  refine ⟨.inl rfl, user_cases _ _, rfl, ?_⟩
  intro parameter sent
  dsimp only at sent ⊢
  rw [Requests.decodeForm_acquireTokenRefreshToken, List.mem_cons, List.mem_cons,
    List.mem_append] at sent
  rcases sent with rfl | rfl | isScope | isClient
  · exact .grantType _ (by decide)
  · cases held : kv.secretMap.lookup "refresh_token" with
    | none =>
        have empty : valueOf kv "refresh_token" = "" := by
          unfold valueOf
          rw [held]
          rfl
        rw [empty] at incomplete
        exact absurd (.inr rfl) incomplete
    | some refreshToken =>
        have isHeld : valueOf kv "refresh_token" = refreshToken := by
          unfold valueOf
          rw [held]
          rfl
        rw [isHeld]
        refine .refreshToken refreshToken rfl ?_
        rw [held] at own
        rcases own with given_eq | gone | ⟨tokens, nowS, issued, same⟩
        · exact .inl given_eq.symm
        · cases gone
        · exact .inr ⟨tokens, nowS, issued, Option.some.inj same⟩
  · obtain ⟨-, rfl⟩ := mem_optional_iff.mp isScope
    exact .scope
  · obtain ⟨-, rfl⟩ := mem_optional_iff.mp isClient
    exact .clientId

theorem entitled_authorization
    (asked : Requests.requestDeviceAuthorization
      (bytesOf (valueOf kv "device_authorization_endpoint"))
      (bytesOf (valueOf kv "client_id")) (bytesOf (valueOf kv "client_secret"))
      (bytesOf (valueOf kv "scope")) = some request) :
    Entitled platform start labels number secretName givenKv request := by
  rw [origin.valueOf_eq (by decide), origin.valueOf_eq (by decide),
    origin.valueOf_eq (by decide), origin.valueOf_eq (by decide)] at asked
  unfold Requests.requestDeviceAuthorization at asked
  split at asked
  · cases asked
  cases asked
  refine ⟨.inr rfl, user_cases _ _, rfl, ?_⟩
  intro parameter sent
  dsimp only at sent ⊢
  rw [Requests.decodeForm_requestDeviceAuthorization, List.mem_cons] at sent
  rcases sent with rfl | isScope
  · exact .clientId
  · obtain ⟨-, rfl⟩ := mem_optional_iff.mp isScope
    exact .scope

theorem entitled_poll
    {startMs : Int}
    (authorized : Machine.Occurs (step platform) (Authorizes platform number
      (valueOf kv "device_authorization_endpoint") auth startMs) (initial start) labels)
    (asked : Requests.pollDeviceTokenEndpoint (bytesOf (valueOf kv "token_endpoint"))
      (bytesOf (valueOf kv "client_id")) (bytesOf (valueOf kv "client_secret"))
      (bytesOf auth.deviceCode) = some request) :
    Entitled platform start labels number secretName givenKv request := by
  rw [origin.valueOf_eq (by decide)] at authorized
  rw [origin.valueOf_eq (by decide), origin.valueOf_eq (by decide),
    origin.valueOf_eq (by decide)] at asked
  unfold Requests.pollDeviceTokenEndpoint at asked
  split at asked
  · cases asked
  cases asked
  refine ⟨.inl rfl, user_cases _ _, rfl, ?_⟩
  intro parameter sent
  dsimp only at sent ⊢
  rw [Requests.decodeForm_pollDeviceTokenEndpoint, List.mem_cons, List.mem_cons,
    List.mem_singleton] at sent
  rcases sent with rfl | rfl | rfl
  · exact .grantType _ (by decide)
  · exact .deviceCode auth startMs rfl authorized
  · exact .clientId

end

/-- What a request carries is that of the secret that the copy of its call goes back to. -/
theorem entitled_of_asked
    {request : PostRequestBytes}
    (findsRegistered : platform.secretManager.FindsRegistered)
    (onItsWay : (run platform (initial start) labels).flows.lookup number = some flow)
    (asked : flow.request = some request) :
    ∃ given givenKv entry kv,
      flow.stage.copy = some { entry := some entry, kv := some kv } ∧
      Origin platform start labels flow.secretName given givenKv entry kv ∧
      Entitled platform start labels number flow.secretName givenKv request := by
  have originOf {accessor : SecretAccessor} (copies : flow.stage.copy = some accessor) :
      ∃ given givenKv entry kv, accessor = { entry := some entry, kv := some kv } ∧
        Origin platform start labels flow.secretName given givenKv entry kv := by
    obtain ⟨entry, kv, rfl⟩ := copied_run platform start labels number flow accessor
      onItsWay copies
    obtain ⟨given, givenKv, origin⟩ := origin_of_held findsRegistered
      (.copied number flow onItsWay rfl copies)
    exact ⟨given, givenKv, entry, kv, rfl, origin⟩
  unfold Flow.request at asked
  split at asked
  · next accessor exchanges =>
      obtain ⟨given, givenKv, entry, kv, rfl, origin⟩ :=
        originOf (congrArg Stage.copy exchanges)
      refine ⟨given, givenKv, entry, kv, congrArg Stage.copy exchanges, origin, ?_⟩
      unfold exchangeRequest at asked
      split at asked
      · exact entitled_refresh origin asked
      · exact entitled_login origin asked
  · next accessor authorizes =>
      obtain ⟨given, givenKv, entry, kv, rfl, origin⟩ :=
        originOf (congrArg Stage.copy authorizes)
      exact ⟨given, givenKv, entry, kv, congrArg Stage.copy authorizes, origin,
        entitled_authorization origin asked⟩
  · next accessor auth intervalS deadlineMs isPolling =>
      obtain ⟨given, givenKv, entry, kv, rfl, origin⟩ :=
        originOf (congrArg Stage.copy isPolling)
      have authorized := authorized_of_polling onItsWay (congrArg authorizationAt isPolling)
      exact ⟨given, givenKv, entry, kv, congrArg Stage.copy isPolling, origin,
        entitled_poll origin authorized asked⟩
  · cases asked

/-- A request of a call carries the credentials, and goes to an endpoint, of one secret that
a user gave under the name of the call; a refresh token that it carries is that secret's or
was issued by its token endpoint, to which the request goes. -/
theorem request_entitled
    (platform : Platform State Event)
    (start : State)
    (labels : List (Label Event))
    (number : Nat)
    (flow : Flow)
    (request : PostRequestBytes)
    (findsRegistered : platform.secretManager.FindsRegistered)
    (onItsWay : (run platform (initial start) labels).flows.lookup number = some flow)
    (asked : flow.request = some request) :
    ∃ given givenKv, Gives platform start labels flow.secretName given ∧
      given.secret = .keyValue givenKv ∧
      Entitled platform start labels number flow.secretName givenKv request := by
  obtain ⟨given, givenKv, _, _, -, origin, entitled⟩ := entitled_of_asked findsRegistered
    onItsWay asked
  exact ⟨given, givenKv, origin.gives, origin.given_eq, entitled⟩

/-- The request of the sample refresh. -/
def sampleRequest : PostRequestBytes where
  url := bytesOf "https://idp.test/token"
  body := bytesOf "grant_type=refresh_token&refresh_token=r&client_id=c"
  contentType := Requests.formContentType
  basicUser := bytesOf "c"
  basicPass := bytesOf "p"

theorem request_entitled_sample :
    ∃ given givenKv, Gives samplePlatform sampleSecrets [.call 1 .refresh "s"] "s" given ∧
      given.secret = .keyValue givenKv ∧
      Entitled samplePlatform sampleSecrets [.call 1 .refresh "s"] 0 "s" givenKv
        sampleRequest :=
  request_entitled samplePlatform sampleSecrets [.call 1 .refresh "s"] 0 sampleFlow
    sampleRequest SecretManager.sequential_findsRegistered (by rfl) (by decide)

end Client
end Acquire
end QuackOauth
