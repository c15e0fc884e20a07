import Mathlib.Data.List.Basic

/-!
# Which flow to acquire a token by

A secret holds a token with its expiry and what the flows need.  The flow is decided by
the secret, the clock and the time by which tokens are renewed early.
-/

namespace QuackOauth
namespace Acquire

/-- The ways to a token. -/
inductive AcquireFlow
  | useCached
  | refreshToken
  | clientCredentials
  | deviceCode
  | unconfigured
  deriving DecidableEq, Repr

/-- What a secret holds; an expiry of zero is unknown. -/
structure ClientSecretView where
  accessToken : String := ""
  expiresAtUnixS : Int := 0
  refreshToken : String := ""
  clientId : String := ""
  clientSecret : String := ""
  tokenEndpoint : String := ""
  deviceAuthorizationEndpoint : String := ""
  scope : String := ""
  deriving DecidableEq, Repr

structure AcquireDecision where
  flow : AcquireFlow := .unconfigured
  reason : String := ""
  deriving DecidableEq, Repr

/-- A token whose expiry is known and far enough away. -/
def accessTokenIsFresh (v : ClientSecretView) (nowS renewSkewS : Int) : Bool :=
  if v.accessToken = "" then false
  else if v.expiresAtUnixS ≤ 0 then false
  else decide (v.expiresAtUnixS > nowS + renewSkewS)

def canRefresh (v : ClientSecretView) : Bool :=
  v.refreshToken ≠ "" && v.tokenEndpoint ≠ "" && v.clientId ≠ ""

def canClientCredentials (v : ClientSecretView) : Bool :=
  v.clientId ≠ "" && v.clientSecret ≠ "" && v.tokenEndpoint ≠ ""

def canDeviceCode (v : ClientSecretView) : Bool :=
  v.clientId ≠ "" && v.tokenEndpoint ≠ "" && v.deviceAuthorizationEndpoint ≠ ""

/-- The first flow that the secret allows. -/
def decideAcquireFlow (v : ClientSecretView) (nowS renewSkewS : Int) : AcquireDecision :=
  if accessTokenIsFresh v nowS renewSkewS then
    ⟨.useCached, "fresh access_token on SECRET"⟩
  else if canRefresh v then ⟨.refreshToken, "refresh_token on SECRET"⟩
  else if canClientCredentials v then
    ⟨.clientCredentials, "client_id + client_secret on SECRET"⟩
  else if canDeviceCode v then
    ⟨.deviceCode, "client_id + device_authorization_endpoint on SECRET"⟩
  else ⟨.unconfigured,
    "SECRET has no usable credentials: need either a fresh access_token, " ++
      "or refresh_token + token_endpoint + client_id, " ++
      "or client_id + client_secret + token_endpoint, " ++
      "or client_id + token_endpoint + device_authorization_endpoint"⟩

/-- The cached token is used exactly while it is fresh. -/
theorem flow_eq_useCached_iff {v : ClientSecretView} {nowS renewSkewS : Int} :
    (decideAcquireFlow v nowS renewSkewS).flow = .useCached ↔
      accessTokenIsFresh v nowS renewSkewS = true := by
  unfold decideAcquireFlow
  split_ifs with fresh refresh credentials device
  · simp [fresh]
  · simp [fresh]
  · simp [fresh]
  · simp [fresh]
  · simp [fresh]

/-- Without a known expiry no token is fresh. -/
theorem accessTokenIsFresh_of_unknown
    {v : ClientSecretView}
    (unknown : v.expiresAtUnixS ≤ 0)
    (nowS renewSkewS : Int) :
    accessTokenIsFresh v nowS renewSkewS = false := by
  unfold accessTokenIsFresh
  rw [if_pos unknown, ite_self]

end Acquire
end QuackOauth
