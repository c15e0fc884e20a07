import QuackOauth.Acquire.Timestamp
import QuackOauth.Jwt.Backend
import QuackOauth.Validator.Validate

/-!
# What token endpoints answer

A token endpoint answers with tokens or with an error code, a device authorization
endpoint with the code that the user is to enter.  What cannot be read is no answer.
-/

namespace QuackOauth
namespace Acquire

open Jwt
open Validator (Response)

/-- Tokens; a field that the answer lacks is empty or zero. -/
structure TokenResponse where
  accessToken : String
  refreshToken : String := ""
  tokenType : String := ""
  scope : String := ""
  expiresIn : Int := 0
  deriving DecidableEq, Repr

/-- A field that is a number. -/
def asInt (fields : List (String × Json)) (key : String) (fallback : Int) : Int :=
  match Json.find fields key with
  | some (.int value) => value
  | some (.double truncated) => truncated
  | _ => fallback

/-- The fields of a body that is a JSON object. -/
def parseObject (backend : Backend) (json : String) : Option (List (String × Json)) :=
  match backend.parseJson json with
  | some (.object fields) => some fields
  | _ => none

/-- Read tokens; there must be an access token. -/
def parseTokenResponse (backend : Backend) (json : String) : Option TokenResponse :=
  if json = "" then none
  else
    match parseObject backend json with
    | none => none
    | some fields =>
        match Json.asString fields "access_token" with
        | none => none
        | some accessToken =>
            if accessToken = "" then none
            else some {
              accessToken
              refreshToken := Json.getStringOrEmpty fields "refresh_token"
              tokenType := Json.getStringOrEmpty fields "token_type"
              scope := Json.getStringOrEmpty fields "scope"
              expiresIn := asInt fields "expires_in" 0 }

/-- The tokens of a response, if it is one with tokens. -/
def tokensOf (backend : Backend) (response : Option Response) : Option TokenResponse :=
  match response with
  | none => none
  | some response =>
      if response.statusCode ≠ 200 then none else parseTokenResponse backend response.body

/-- Where the user is to enter which code. -/
structure DeviceAuthorizationResponse where
  deviceCode : String
  userCode : String
  verificationUri : String
  verificationUriComplete : String := ""
  expiresIn : Int := 0
  interval : Int := 5
  deriving DecidableEq, Repr

def parseDeviceAuthorizationResponse
    (backend : Backend)
    (json : String) : Option DeviceAuthorizationResponse :=
  if json = "" then none
  else
    match parseObject backend json with
    | none => none
    | some fields =>
        match Json.asString fields "device_code", Json.asString fields "user_code",
            Json.asString fields "verification_uri" with
        | some deviceCode, some userCode, some verificationUri => some {
            deviceCode, userCode, verificationUri
            verificationUriComplete :=
              Json.getStringOrEmpty fields "verification_uri_complete"
            expiresIn := asInt fields "expires_in" 0
            interval := asInt fields "interval" 5 }
        | _, _, _ => none

/-- The authorization of a response, if it is one with an authorization. -/
def authorizationOf
    (backend : Backend)
    (response : Option Response) : Option DeviceAuthorizationResponse :=
  match response with
  | none => none
  | some response =>
      if response.statusCode ≠ 200 then none
      else parseDeviceAuthorizationResponse backend response.body

/-- How one poll of the token endpoint ends. -/
inductive DevicePollOutcome
  | pending
  | slowDown
  | success
  | denied
  | expired
  | error
  deriving DecidableEq, Repr

structure DevicePollResult where
  outcome : DevicePollOutcome := .error
  tokens : Option TokenResponse := none
  deriving DecidableEq, Repr

/-- Read the answer to a poll: tokens, or else an error code. -/
def parseDevicePollResponse
    (backend : Backend)
    (httpStatus : Int)
    (body : String) : DevicePollResult :=
  if httpStatus = 200 then
    match parseTokenResponse backend body with
    | none => { outcome := .error }
    | some tokens => { outcome := .success, tokens := some tokens }
  else
    match parseObject backend body with
    | none => { outcome := .error }
    | some fields =>
        match Json.asString fields "error" with
        | none => { outcome := .error }
        | some code =>
            if code = "authorization_pending" then { outcome := .pending }
            else if code = "slow_down" then { outcome := .slowDown }
            else if code = "access_denied" then { outcome := .denied }
            else if code = "expired_token" then { outcome := .expired }
            else { outcome := .error }

/-- One poll.  Without an endpoint, a client or a code nothing is sent. -/
def pollDeviceTokenEndpoint
    (backend : Backend)
    (tokenEndpoint clientId deviceCode : String)
    (response : Option Response) : DevicePollResult :=
  if tokenEndpoint = "" ∨ clientId = "" ∨ deviceCode = "" then { outcome := .error }
  else
    match response with
    | none => { outcome := .error }
    | some response => parseDevicePollResponse backend response.statusCode response.body

variable {backend : Backend} {response : Option Response}

/-- There are tokens exactly when the poll succeeds. -/
theorem tokens_isSome_iff (httpStatus : Int) (body : String) :
    (parseDevicePollResponse backend httpStatus body).tokens.isSome = true ↔
      (parseDevicePollResponse backend httpStatus body).outcome = .success := by
  unfold parseDevicePollResponse
  split
  · split <;> simp
  · split
    · simp
    · split
      · simp
      · split_ifs <;> simp

/-- A poll that succeeds has read its tokens from a response. -/
theorem tokensOf_of_poll
    {tokenEndpoint clientId deviceCode : String}
    {tokens : TokenResponse}
    (polled : (pollDeviceTokenEndpoint backend tokenEndpoint clientId deviceCode
      response).tokens = some tokens) :
    tokensOf backend response = some tokens := by
  unfold pollDeviceTokenEndpoint at polled
  split at polled
  · cases polled
  · split at polled
    · cases polled
    · next response =>
        have succeeds := (tokens_isSome_iff response.statusCode response.body).mp
          (Option.isSome_of_eq_some polled)
        unfold tokensOf
        unfold parseDevicePollResponse at polled succeeds
        dsimp only
        by_cases isOk : response.statusCode = 200
        · rw [if_pos isOk] at polled
          rw [if_neg (not_not.mpr isOk)]
          cases parsed : parseTokenResponse backend response.body with
          | none =>
              rw [parsed] at polled
              cases polled
          | some parsedTokens =>
              rw [parsed] at polled
              exact polled
        · rw [if_neg isOk] at polled succeeds
          split at polled
          · cases polled
          · split at polled
            · cases polled
            · split_ifs at polled

/-- Tokens always include an access token. -/
theorem accessToken_ne_of_tokensOf
    {tokens : TokenResponse}
    (read : tokensOf backend response = some tokens) :
    tokens.accessToken ≠ "" := by
  unfold tokensOf at read
  split at read
  · cases read
  · split at read
    · cases read
    · unfold parseTokenResponse at read
      split at read
      · cases read
      · split at read
        · cases read
        · split at read
          · cases read
          · split at read
            · cases read
            · next nonempty =>
                cases read
                exact nonempty

end Acquire
end QuackOauth
