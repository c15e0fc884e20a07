import QuackOauth.Acquire.Tokens
import QuackOauth.Http.Requests
import QuackOauth.Lib.Machine
import QuackOauth.Secret.Manager

/-!
# The client

Calls that log in, refresh, acquire and log out, from any number of transactions, over one
secret manager.  A call takes a copy of its secret, asks the token endpoint, and writes
the copy back with the new tokens, so that others come in between.

Times are integers.  What is said of them holds of the 64-bit clocks as long as an expiry in
seconds and a deadline in nanoseconds fit.
-/

namespace QuackOauth
namespace Acquire

open Lib Jwt Secret
open Requests (PostRequestBytes)
open Validator (Response)

/-- What lies outside: the libraries, how times before 1970 are written, and the secret
manager of the database. -/
structure Platform (State Event : Type) where
  backend : Backend
  formatEarly : Int → String
  secretManager : SecretManager State Event

variable {State Event : Type}

/-- A time as a text. -/
def isoOf (platform : Platform State Event) (unixSeconds : Int) : String :=
  match unixSeconds with
  | .ofNat seconds =>
      String.ofList ((formatUtcIso8601 seconds).map fun c => Char.ofNat c.toNat)
  | .negSucc _ => platform.formatEarly unixSeconds

def acquireFlowName : AcquireFlow → String
  | .useCached => "use_cached"
  | .refreshToken => "refresh_token"
  | .clientCredentials => "client_credentials"
  | .deviceCode => "device_code"
  | .unconfigured => "unconfigured"

/-- The functions that bring new tokens. -/
inductive FlowFn
  | refresh
  | login
  | deviceLogin
  deriving DecidableEq, Repr

def FlowFn.name : FlowFn → String
  | .refresh => "quack_oauth_refresh"
  | .login => "quack_oauth_login"
  | .deviceLogin => "quack_oauth_device_login"

/-- How far a call has come. -/
inductive Stage
  /-- The acquisition has chosen the flow. -/
  | starting
  /-- The token endpoint is asked. -/
  | exchanging (accessor : SecretAccessor)
  /-- The device authorization endpoint is asked. -/
  | authorizing (accessor : SecretAccessor)
  /-- The deadline is to be checked before the next poll. -/
  | waiting
      (accessor : SecretAccessor)
      (auth : DeviceAuthorizationResponse)
      (intervalS deadlineMs : Int)
  /-- The call sleeps and then polls the token endpoint. -/
  | polling
      (accessor : SecretAccessor)
      (auth : DeviceAuthorizationResponse)
      (intervalS deadlineMs : Int)
  /-- The flow is over, and the acquisition is to read the token. -/
  | rereading

/-- A call on its way. -/
structure Flow where
  transaction : Nat
  flowFn : FlowFn
  secretName : String
  forAcquire : Bool := false
  stage : Stage

/-! ## The pieces of the flows -/

/-- An error of a call on a secret. -/
def missing (fnName secretName what : String) : Failure :=
  .invalidInput (fnName ++ ": SECRET '" ++ secretName ++ "' " ++ what)

/-- The part of `DoLogin` before the request. -/
def beginLogin (accessor : SecretAccessor) (secretName : String) : Except Failure Stage :=
  if accessor.get "token_endpoint" = "" then
    .error (missing "quack_oauth_login" secretName "is missing `token_endpoint`")
  else if accessor.get "client_id" = "" ∨ accessor.get "client_secret" = "" then
    .error (missing "quack_oauth_login" secretName
      "is missing client_id or client_secret (S-12 supports client_credentials only)")
  else .ok (.exchanging accessor)

/-- The part of `DoRefresh` before the request. -/
def beginRefresh (accessor : SecretAccessor) (secretName : String) : Except Failure Stage :=
  if accessor.get "token_endpoint" = "" then
    .error (missing "quack_oauth_refresh" secretName "is missing `token_endpoint`")
  else if accessor.get "refresh_token" = "" then
    .error (missing "quack_oauth_refresh" secretName
      "has no `refresh_token` -- run quack_oauth_login first or set one explicitly")
  else .ok (.exchanging accessor)

/-- The part of `DoDeviceLoginImpl` before the first request. -/
def beginDeviceLogin
    (accessor : SecretAccessor)
    (secretName : String) : Except Failure Stage :=
  if accessor.get "device_authorization_endpoint" = "" then
    .error (missing "quack_oauth_device_login" secretName
      "is missing `device_authorization_endpoint`")
  else if accessor.get "token_endpoint" = "" ∨ accessor.get "client_id" = "" then
    .error (missing "quack_oauth_device_login" secretName
      "is missing `token_endpoint` or `client_id`")
  else .ok (.authorizing accessor)

/-- Open the secret and prepare the first request. -/
def beginFlow
    (getSecretByName : String → Option SecretEntry)
    (flowFn : FlowFn)
    (secretName : String) : Except Failure Stage := do
  let accessor ← openSecret getSecretByName secretName (some "quack_oauth") flowFn.name
  match flowFn with
  | .login => beginLogin accessor secretName
  | .refresh => beginRefresh accessor secretName
  | .deviceLogin => beginDeviceLogin accessor secretName

/-- What a token endpoint is asked with a copy of a secret. -/
def exchangeRequest (flowFn : FlowFn) (accessor : SecretAccessor) : Option PostRequestBytes :=
  let field (name : String) := bytesOf (accessor.get name)
  match flowFn with
  | .refresh => Requests.acquireTokenRefreshToken (field "token_endpoint") (field "client_id")
      (field "client_secret") (field "refresh_token") (field "scope")
  | _ => Requests.acquireTokenClientCredentials (field "token_endpoint") (field "client_id")
      (field "client_secret") (field "scope")

/-- The request that is out at a stage, or follows the sleep. -/
def Flow.request (flow : Flow) : Option PostRequestBytes :=
  let field (accessor : SecretAccessor) (name : String) := bytesOf (accessor.get name)
  match flow.stage with
  | .exchanging accessor => exchangeRequest flow.flowFn accessor
  | .authorizing accessor =>
      Requests.requestDeviceAuthorization (field accessor "device_authorization_endpoint")
        (field accessor "client_id") (field accessor "client_secret") (field accessor "scope")
  | .polling accessor auth _ _ =>
      Requests.pollDeviceTokenEndpoint (field accessor "token_endpoint")
        (field accessor "client_id") (field accessor "client_secret") (bytesOf auth.deviceCode)
  | _ => none

/-- What a step makes of a call. -/
inductive Progress
  | goesOn (stage : Stage)
  /-- The copy is to be written back with new tokens. -/
  | persists (accessor : SecretAccessor) (tokens : TokenResponse) (nowS : Int)
  | returns (result : Except Failure String)

/-- The end of an exchange. -/
def finishExchange
    (backend : Backend)
    (flowFn : FlowFn)
    (accessor : SecretAccessor)
    (response : Option Response)
    (nowS : Int) : Progress :=
  match tokensOf backend response with
  | some tokens => .persists accessor tokens nowS
  | none =>
      match flowFn with
      | .refresh => .returns (.error (.io ("quack_oauth_refresh: token endpoint '" ++
          accessor.get "token_endpoint" ++
          "' did not return a valid response (refresh_token may be expired or revoked)")))
      | _ => .returns (.error (.io ("quack_oauth_login: token endpoint '" ++
          accessor.get "token_endpoint" ++ "' did not return a valid response")))

/-- The device may be authorized until the deadline, for less than 292 years. -/
def finishAuthorization
    (backend : Backend)
    (accessor : SecretAccessor)
    (response : Option Response)
    (startMs : Int) : Progress :=
  match authorizationOf backend response with
  | none => .returns (.error (.io
      ("quack_oauth_device_login: device_authorization_endpoint '" ++
        accessor.get "device_authorization_endpoint" ++ "' did not return a valid response")))
  | some auth =>
      .goesOn (.waiting accessor auth (if auth.interval > 0 then auth.interval else 5)
        (startMs + 1000 * if auth.expiresIn > 0 then auth.expiresIn else 600))

/-- The head of the polling loop. -/
def checkDeadline
    (accessor : SecretAccessor)
    (auth : DeviceAuthorizationResponse)
    (intervalS deadlineMs nowMs : Int) : Progress :=
  if nowMs < deadlineMs then .goesOn (.polling accessor auth intervalS deadlineMs)
  else .returns (.error (.io
    "quack_oauth_device_login: polling timed out before user authorized"))

/-- The body of the polling loop. -/
def finishPoll
    (backend : Backend)
    (accessor : SecretAccessor)
    (auth : DeviceAuthorizationResponse)
    (intervalS deadlineMs : Int)
    (response : Option Response)
    (nowS : Int) : Progress :=
  let poll := pollDeviceTokenEndpoint backend (accessor.get "token_endpoint")
    (accessor.get "client_id") auth.deviceCode response
  match poll.outcome with
  | .pending => .goesOn (.waiting accessor auth intervalS deadlineMs)
  | .slowDown => .goesOn (.waiting accessor auth (intervalS + 5) deadlineMs)
  | .success =>
      match poll.tokens with
      | some tokens => .persists accessor tokens nowS
      | none => .returns (.error (.io
          "quack_oauth_device_login: token endpoint returned success but no access_token"))
  | .denied => .returns (.error (.io
      "quack_oauth_device_login: user denied the authorization request"))
  | .expired => .returns (.error (.io
      ("quack_oauth_device_login: device_code expired before the user " ++
        "completed the authorization flow")))
  | .error => .returns (.error (.io
      ("quack_oauth_device_login: token endpoint returned an " ++
        "unexpected error while polling")))

/-- The refresh token that a flow writes back.  A login writes none. -/
def persistedRefreshToken (flowFn : FlowFn) (tokens : TokenResponse) : String :=
  match flowFn with
  | .login => ""
  | _ => tokens.refreshToken

/-! ## Acquisitions -/

/-- What a secret holds, as an acquisition sees it. -/
def loadClientSecretView
    (getSecretByName : String → Option SecretEntry)
    (secretName : String) : Except Failure ClientSecretView := do
  let accessor ← openSecret getSecretByName secretName (some "quack_oauth") "quack_oauth_acquire"
  pure {
    accessToken := accessor.get "access_token"
    expiresAtUnixS := parseIso8601ToUnixSeconds (bytesOf (accessor.get "expires_at"))
    refreshToken := accessor.get "refresh_token"
    clientId := accessor.get "client_id"
    clientSecret := accessor.get "client_secret"
    tokenEndpoint := accessor.get "token_endpoint"
    deviceAuthorizationEndpoint := accessor.get "device_authorization_endpoint"
    scope := accessor.get "scope" }

/-- How an acquisition begins. -/
inductive Acquisition
  | returns (result : Except Failure String)
  | runs (flowFn : FlowFn)

/-- The part of `DoAcquire` up to the flow. -/
def beginAcquire
    (getSecretByName : String → Option SecretEntry)
    (secretName : String)
    (nowS renewSkewS : Int) : Acquisition :=
  if secretName = "" then
    .returns (.error (.invalidInput "quack_oauth_acquire: secret name must be non-empty"))
  else
    match loadClientSecretView getSecretByName secretName with
    | .error failure => .returns (.error failure)
    | .ok view =>
        let decision := decideAcquireFlow view nowS renewSkewS
        match decision.flow with
        | .useCached => .returns (.ok view.accessToken)
        | .refreshToken => .runs .refresh
        | .clientCredentials => .runs .login
        | .deviceCode => .runs .deviceLogin
        | .unconfigured => .returns (.error (.invalidInput
            ("quack_oauth_acquire: SECRET '" ++ secretName ++ "' is " ++
              acquireFlowName decision.flow ++ ". " ++ decision.reason)))

/-- The part of `RunFlowAndReadToken` after the flow. -/
def reread
    (getSecretByName : String → Option SecretEntry)
    (flowFn : FlowFn)
    (secretName : String) : Except Failure String := do
  let view ← loadClientSecretView getSecretByName secretName
  if view.accessToken = "" then
    .error (.io ("quack_oauth_acquire: " ++ flowFn.name ++
      " completed but no access_token was persisted on SECRET '" ++ secretName ++ "'"))
  else pure view.accessToken

/-! ## The system -/

/-- The secrets and the calls on their way. -/
structure Client (State : Type) where
  secrets : State
  flows : UnorderedMap Nat Flow := ∅
  /-- The number of the next call. -/
  nextFlow : Nat := 0

/-- One access to the secret manager, or a reading of the clock. -/
inductive Label (Event : Type)
  | call (transaction : Nat) (flowFn : FlowFn) (secretName : String)
  | acquire (transaction : Nat) (secretName : String) (nowS renewSkewS : Int)
  | logout (transaction : Nat) (secretName : String)
  /-- An acquisition enters the flow it has chosen. -/
  | start (flow : Nat)
  | tokenResponse (flow : Nat) (response : Option Response) (nowS : Int)
  | authorizationResponse (flow : Nat) (response : Option Response) (startMs : Int)
  | deadline (flow : Nat) (nowMs : Int)
  | pollResponse (flow : Nat) (response : Option Response) (nowS : Int)
  | rereads (flow : Nat)
  /-- A user creates a secret, or replaces one. -/
  | createSecret (transaction : Nat) (secretName : String) (entry : SecretEntry)
  /-- Something else happens in the secret manager. -/
  | happens (event : Event)

namespace Client

/-- The call that a step is of. -/
def flowOf : Label Event → Option Nat
  | .start flow | .tokenResponse flow _ _ | .authorizationResponse flow _ _
  | .deadline flow _ | .pollResponse flow _ _ | .rereads flow => some flow
  | .call _ _ _ | .acquire _ _ _ _ | .logout _ _ | .createSecret _ _ _ | .happens _ => none

/-- What a transaction finds. -/
def found
    (platform : Platform State Event)
    (client : Client State)
    (transaction : Nat) : String → Option SecretEntry :=
  platform.secretManager.getSecretByName client.secrets transaction

/-- What a step makes of its call.  A step that does not fit the stage does nothing. -/
def advance
    (platform : Platform State Event)
    (getSecretByName : String → Option SecretEntry)
    (flow : Flow)
    (label : Label Event) : Progress :=
  match label, flow.stage with
  | .start _, .starting =>
      match beginFlow getSecretByName flow.flowFn flow.secretName with
      | .error failure => .returns (.error failure)
      | .ok stage => .goesOn stage
  | .tokenResponse _ response nowS, .exchanging accessor =>
      finishExchange platform.backend flow.flowFn accessor response nowS
  | .authorizationResponse _ response startMs, .authorizing accessor =>
      finishAuthorization platform.backend accessor response startMs
  | .deadline _ nowMs, .waiting accessor auth intervalS deadlineMs =>
      checkDeadline accessor auth intervalS deadlineMs nowMs
  | .pollResponse _ response nowS, .polling accessor auth intervalS deadlineMs =>
      finishPoll platform.backend accessor auth intervalS deadlineMs response nowS
  | .rereads _, .rereading => .returns (reread getSecretByName flow.flowFn flow.secretName)
  | _, _ => .goesOn flow.stage

/-- The call that a step is of, as far as it has come, and what the step makes of it. -/
def progressOf
    (platform : Platform State Event)
    (client : Client State)
    (label : Label Event) : Option (Nat × Flow × Progress) :=
  match flowOf label with
  | none => none
  | some number =>
      (client.flows.lookup number).map fun flow =>
        (number, flow, advance platform (client.found platform flow.transaction) flow label)

/-- Write the tokens of a call back.  A conflict with another transaction raises. -/
def writeBack
    (platform : Platform State Event)
    (client : Client State)
    (flow : Flow)
    (accessor : SecretAccessor)
    (tokens : TokenResponse)
    (nowS : Int) : Except Failure State :=
  platform.secretManager.persistTokenFields client.secrets flow.transaction flow.secretName
    accessor tokens.accessToken (isoOf platform (nowS + tokens.expiresIn))
    (persistedRefreshToken flow.flowFn tokens)

/-- The calls that are on their way after a step. -/
def flowsAfter
    (platform : Platform State Event)
    (client : Client State)
    (label : Label Event) : UnorderedMap Nat Flow :=
  match label with
  | .call transaction flowFn secretName =>
      match beginFlow (client.found platform transaction) flowFn secretName with
      | .error _ => client.flows
      | .ok stage =>
          client.flows.insert client.nextFlow { transaction, flowFn, secretName, stage }
  | .acquire transaction secretName nowS renewSkewS =>
      match beginAcquire (client.found platform transaction) secretName nowS renewSkewS with
      | .returns _ => client.flows
      | .runs flowFn => client.flows.insert client.nextFlow
          { transaction, flowFn, secretName, forAcquire := true, stage := .starting }
  | _ =>
      match client.progressOf platform label with
      | none => client.flows
      | some (number, flow, .goesOn stage) => client.flows.insert number { flow with stage }
      | some (number, flow, .persists accessor tokens nowS) =>
          match client.writeBack platform flow accessor tokens nowS with
          | .error _ => client.flows.erase number
          | .ok _ =>
              if flow.forAcquire then
                client.flows.insert number { flow with stage := .rereading }
              else client.flows.erase number
      | some (number, _, .returns _) => client.flows.erase number

/-- The secrets after a step.  What raises changes nothing. -/
def secretsAfter
    (platform : Platform State Event)
    (client : Client State)
    (label : Label Event) : State :=
  let changed : Except Failure State :=
    match label with
    | .logout transaction secretName =>
        platform.secretManager.doLogout client.secrets transaction secretName
    | .createSecret transaction secretName entry =>
        platform.secretManager.registerSecret client.secrets transaction secretName entry
    | .happens event => .ok (platform.secretManager.happen client.secrets event)
    | _ =>
        match client.progressOf platform label with
        | some (_, flow, .persists accessor tokens nowS) =>
            client.writeBack platform flow accessor tokens nowS
        | _ => .ok client.secrets
  match changed with
  | .error _ => client.secrets
  | .ok secrets => secrets

/-- What a call returns in a step, if it returns. -/
def resultOf
    (platform : Platform State Event)
    (client : Client State) : Label Event → Option (Except Failure String)
  | .call transaction flowFn secretName =>
      match beginFlow (client.found platform transaction) flowFn secretName with
      | .error failure => some (.error failure)
      | .ok _ => none
  | .acquire transaction secretName nowS renewSkewS =>
      match beginAcquire (client.found platform transaction) secretName nowS renewSkewS with
      | .returns result => some result
      | .runs _ => none
  | .logout transaction secretName =>
      match platform.secretManager.doLogout client.secrets transaction secretName with
      | .error failure => some (.error failure)
      | .ok _ => some (.ok "true")
  | .createSecret _ _ _ => none
  | .happens _ => none
  | label =>
      match client.progressOf platform label with
      | some (_, flow, .persists accessor tokens nowS) =>
          match client.writeBack platform flow accessor tokens nowS with
          | .error failure => some (.error failure)
          | .ok _ =>
              if flow.forAcquire then none
              else some (.ok (isoOf platform (nowS + tokens.expiresIn)))
      | some (_, _, .returns result) => some result
      | _ => none

/-- Take a step. -/
def step
    (platform : Platform State Event)
    (client : Client State)
    (label : Label Event) : Client State where
  secrets := client.secretsAfter platform label
  flows := client.flowsAfter platform label
  nextFlow := client.nextFlow + 1

/-- No call yet. -/
def initial (secrets : State) : Client State where
  secrets := secrets

/-- The state after a list of steps. -/
abbrev run (platform : Platform State Event) :
    Client State → List (Label Event) → Client State :=
  Machine.run (step platform)

/-- Tokens for an hour, without a new refresh token. -/
def sampleAnswer : Option Response :=
  some { statusCode := 200, body := "\x7b\"access_token\":\"a\",\"expires_in\":3600\x7d" }

/-- A platform that reads the sample answer, with one transaction after another. -/
def samplePlatform : Platform (UnorderedMap String SecretEntry) String where
  backend := {
    decode := fun _ => none
    parseJson := fun body =>
      if body = "\x7b\"access_token\":\"a\",\"expires_in\":3600\x7d" then
        some (.object [("access_token", .string "a"), ("expires_in", .int 3600)])
      else none
    rsaFromData := fun _ _ => none
    ecFromData := fun _ _ => none
    rawPublicKey := fun _ _ => none
    verify := fun _ _ => .signatureError }
  formatEarly _ := ""
  secretManager := .sequential

/-- A secret of a client that logs in with its own credentials or a refresh token. -/
def sampleSecret : KeyValueSecret where
  type := "quack_oauth"
  secretMap := (((AList.insert "token_endpoint" "https://idp.test/token" ∅).insert
    "client_id" "c").insert "client_secret" "p").insert "refresh_token" "r"

/-- It is the only one. -/
def sampleSecrets : UnorderedMap String SecretEntry :=
  AList.insert "s" { secret := .keyValue sampleSecret } ∅

/-- The secret is refreshed. -/
def sampleRefresh : List (Label String) := [
  .call 1 .refresh "s",
  .tokenResponse 0 sampleAnswer 1000]

/-- The sample secret, opened. -/
def sampleCopy : SecretAccessor where
  entry := some { secret := .keyValue sampleSecret }
  kv := some sampleSecret

/-- The call of the sample refresh, before the answer arrives. -/
def sampleFlow : Flow where
  transaction := 1
  flowFn := .refresh
  secretName := "s"
  stage := .exchanging sampleCopy

end Client
end Acquire
end QuackOauth
