import QuackOauth.Validator.Select

/-!
# Validating a token against the cache

`validateToken` runs under the mutex of the cache and gives it up during its one
JWKS request.  It is therefore written as two pieces: `beginValidation`, up to the
request, and `finishValidation`, from the response on, in a cache that others may
have changed meanwhile.  What the call remembers across the request is a `Parked`
value.
-/

namespace QuackOauth
namespace Validator

open Lib Jwks Jwt

/-! ## Data -/

/-- An HTTP response. -/
structure Response where
  statusCode : Int
  body : String

/-- Why a refresh ended as it did. -/
inductive RefreshReason
  | none
  | rotated
  | noRotation
  | throttled
  | budgetThrottled
  | fetchFailed
  | parseFailed
  | kidAbsent
  | kidEvicted
  | revoked
  | superseded
  deriving DecidableEq, Repr

/-- The reason as it appears in the audit log. -/
def RefreshReason.toString : RefreshReason → String
  | .none => ""
  | .rotated => "refresh_rotated"
  | .noRotation => "refresh_no_rotation"
  | .throttled => "refresh_throttled"
  | .budgetThrottled => "refresh_budget_throttled"
  | .fetchFailed => "refresh_fetch_failed"
  | .parseFailed => "refresh_parse_failed"
  | .kidAbsent => "refresh_kid_absent"
  | .kidEvicted => "refresh_kid_evicted"
  | .revoked => "refresh_revoked"
  | .superseded => "refresh_superseded"

/-- What a call reports about its refresh. -/
structure RefreshEvent where
  kid : String := ""
  reason : String := ""
  reasonEnum : RefreshReason := .none

/-- A refresh event for a kid. -/
def refreshEvent (kid : String) (reason : RefreshReason) : RefreshEvent where
  kid := kid
  reason := reason.toString
  reasonEnum := reason

/-- One call: the token, the options, the issuer's URI, and the event to fill in.  A
caller that passes no event reads none. -/
structure Call where
  token : String
  opts : VerifyOptions
  jwksUri : String
  refresh : RefreshEvent := {}

/-- Why a call waits for a document. -/
inductive Route
  /-- A cached kid is refreshed under a reservation; the verdict stands if the
  document cannot be read. -/
  | refresh (reservationId : Nat) (cachedResult : VerifyResult)
  /-- The kid is not cached. -/
  | cold
  deriving DecidableEq

/-- A call that waits for its document. -/
structure Parked where
  call : Call
  parsed : JwtParsed
  route : Route

/-- Where the request goes. -/
def Parked.url (parked : Parked) : String :=
  parked.call.jwksUri

/-- What a call returns, and the cache it leaves. -/
structure Outcome where
  verdict : VerifyResult
  refresh : RefreshEvent
  cache : JwksCache

/-- The first piece of a call returns, or goes on to fetch. -/
inductive Progress
  | finished (outcome : Outcome)
  | fetching (parked : Parked) (cache : JwksCache)

/-! ## Up to the request -/

/-- The part of `TryRefreshRotatedKid` before the request: budget and reservation. -/
def beginRefresh
    (call : Call)
    (parsed : JwtParsed)
    (cachedResult : VerifyResult)
    (cache : JwksCache) : Progress :=
  let kid := parsed.kid
  let nowS := call.opts.nowS
  let throttled (isBudget : Bool) (reason : RefreshReason) (cache : JwksCache) :=
    Progress.finished {
      verdict := cachedResult
      refresh := refreshEvent kid reason
      cache := (cache.incrementThrottledRefreshes isBudget nowS).setLastRefreshReason
        reason.toString }
  if !cache.canFetchJwks nowS then throttled true .budgetThrottled cache
  else
    let (reservationId, cache) := cache.tryReserveRefresh kid nowS call.jwksUri
    if reservationId = 0 then throttled false .throttled cache
    else
      .fetching { call, parsed, route := .refresh reservationId cachedResult }
        (cache.recordJwksFetch nowS)

/-- The part of `ValidateToken` before the request. -/
def beginValidation
    (backend : Backend)
    (call : Call)
    (cache : JwksCache) : Progress :=
  let nowS := call.opts.nowS
  let finished (verdict : VerifyResult) :=
    Progress.finished { verdict, refresh := call.refresh, cache }
  match parseJwt backend call.token with
  | none => finished .malformed
  | some parsed =>
      if isForbiddenAlgorithm parsed.alg ||
          !isAlgorithmAllowed parsed.alg call.opts.allowedAlgorithms then
        finished .disallowedAlgorithm
      else if parsed.kid = "" then finished .unknownKid
      else
        let firstLookup := cache.lookup parsed.kid nowS call.jwksUri
        match firstLookup.status with
        | .hit =>
            let matching := matchingKeys firstLookup.keys parsed.alg
            if matching ≠ [] then
              let cachedResult :=
                verifyWithCachedKeys backend call.token matching call.opts
              if !isCachedKeyUnusable cachedResult then finished cachedResult
              else beginRefresh call parsed cachedResult cache
            -- The cached keys have another algorithm or use.
            else beginRefresh call parsed .noMatchingKey cache
        | .rateLimited =>
            .finished {
              verdict := .jwksThrottled
              refresh := refreshEvent parsed.kid .throttled
              cache := cache.incrementThrottledRefreshes false nowS }
        | .miss =>
            if cache.hasFreshJwksDocument nowS kGlobalFetchBudgetWindowSeconds
                call.jwksUri then
              finished .unknownKid
            else if !cache.canFetchJwks nowS then
              .finished {
                verdict := .jwksThrottled
                refresh := refreshEvent parsed.kid .budgetThrottled
                cache := cache.incrementThrottledRefreshes true nowS }
            else
              .fetching { call, parsed, route := .cold } (cache.recordJwksFetch nowS)

/-! ## From the response on -/

/-- What became of a request. -/
inductive Fetched
  | failed
  /-- A document without a key that parses. -/
  | noKeys
  | keys (keys : List Jwk)

/-- Read a response. -/
def readResponse (backend : Backend) (response : Option Response) : Fetched :=
  match response with
  | none => .failed
  | some response =>
      if response.statusCode ≠ 200 then .failed
      else
        match parseJwksJson backend response.body with
        | [] => .noKeys
        | k :: rest => .keys (k :: rest)

/-- Commit the candidates and say what they changed. -/
def commitAndAudit
    (kid : String)
    (reservationId : Nat)
    (candidates cachedKeys : List Jwk)
    (nowS : Int)
    (jwksUri : String)
    (cache : JwksCache) : Bool × RefreshEvent × JwksCache :=
  let hasNewMaterial := candidates.any fun cand =>
    !cachedKeys.any fun cached => sameKeyMaterial cand cached
  let hasRemovedMaterial := cachedKeys.any fun cached =>
    !candidates.any fun cand => sameKeyMaterial cand cached
  let (committed, cache) := cache.commitRefresh kid reservationId candidates nowS jwksUri
  let reason : RefreshReason :=
    if committed then
      if hasNewMaterial then .rotated
      else if hasRemovedMaterial then .revoked
      else .noRotation
    else .superseded
  (committed, refreshEvent kid reason, cache)

/-- Ingest the usable keys of one kid of a document in passing. -/
def ingestGroup
    (backend : Backend)
    (nowS : Int)
    (jwksUri : String)
    (cache : JwksCache)
    (group : (_ : String) × List Jwk) : JwksCache :=
  cache.onPassiveFetchSuccess group.1 (screenUsableKeys backend group.2) nowS jwksUri

/-- Ingest the keys a document holds for kids other than the target. -/
def ingestSiblingKeys
    (backend : Backend)
    (order : IterationOrder String (List Jwk))
    (keysByKid : UnorderedMap String (List Jwk))
    (targetKid : String)
    (nowS : Int)
    (jwksUri : String)
    (cache : JwksCache) : JwksCache :=
  let presentKids := keysByKid.keys.filter fun kid => kid ≠ ""
  let cache := cache.reconcileAbsentKids presentKids jwksUri targetKid
  ((order.visit keysByKid).filter fun group => group.1 ≠ targetKid).foldl
    (ingestGroup backend nowS jwksUri) cache

/-- The keys of the target kid in committing order, and the verdict under the one
that was moved to the front. -/
def commitCandidates
    (backend : Backend)
    (parked : Parked)
    (group : List Jwk)
    (liveKeys : List Jwk) : List Jwk × Option VerifyResult :=
  let candidates := screenUsableKeys backend group
  let (candidates, verified) := prioritizeMatchingKey backend candidates
    parked.call.token parked.parsed.alg parked.call.opts
  if verified.isNone then (prioritizeNewKeys candidates liveKeys, verified)
  else (candidates, verified)

/-- Commit what a document says about the target kid.  A verdict is handed on only
if the commit went through. -/
def commitTargetKid
    (backend : Backend)
    (parked : Parked)
    (reservationId : Nat)
    (keysByKid : UnorderedMap String (List Jwk))
    (cache : JwksCache) : Option VerifyResult × RefreshEvent × JwksCache :=
  let kid := parked.parsed.kid
  let nowS := parked.call.opts.nowS
  let jwksUri := parked.call.jwksUri
  match keysByKid.lookup kid with
  | none =>
      let (evicted, cache) := cache.recordKidAbsent kid reservationId nowS jwksUri
      (none, refreshEvent kid (if evicted then .kidEvicted else .kidAbsent), cache)
  | some group =>
      if screenUsableKeys backend group = [] then
        (none, refreshEvent kid .parseFailed, cache)
      else
        let liveKeys := (cache.lookup kid nowS jwksUri).keys
        let (candidates, verified) := commitCandidates backend parked group liveKeys
        let (committed, event, cache) :=
          commitAndAudit kid reservationId candidates liveKeys nowS jwksUri cache
        (if committed then verified else none, event, cache)

/-- The verdict after a commit attempt: the candidate's, or that of the keys that
are cached now. -/
def reverifyAfterCommit
    (backend : Backend)
    (parked : Parked)
    (cachedVerified : Option VerifyResult)
    (cache : JwksCache) : VerifyResult :=
  match cachedVerified with
  | some verdict => verdict
  | none =>
      let recheck := cache.lookup parked.parsed.kid parked.call.opts.nowS
        parked.call.jwksUri
      if recheck.status = .hit ∧ recheck.keys ≠ [] then
        let matching := matchingKeys recheck.keys parked.parsed.alg
        if matching = [] then .noMatchingKey
        else
          (selectAndVerify backend parked.call.token parked.parsed.alg
            parked.call.opts matching).getD .invalidSignature
      else .invalidSignature

/-- The part of `TryRefreshRotatedKid` from the response on. -/
def finishRefresh
    (backend : Backend)
    (parked : Parked)
    (reservationId : Nat)
    (cachedResult : VerifyResult)
    (response : Option Response)
    (order : IterationOrder String (List Jwk))
    (cache : JwksCache) : Outcome :=
  let kid := parked.parsed.kid
  let nowS := parked.call.opts.nowS
  let jwksUri := parked.call.jwksUri
  let unread (reason : RefreshReason) : Outcome := {
    verdict := cachedResult
    refresh := refreshEvent kid reason
    cache := cache.setLastRefreshReason reason.toString }
  match readResponse backend response with
  | .failed => unread .fetchFailed
  | .noKeys => unread .parseFailed
  | .keys keys =>
      let cache := cache.recordJwksFetchSuccess nowS jwksUri
      let keysByKid := groupSigningKeysByKid keys
      let (verified, event, cache) :=
        commitTargetKid backend parked reservationId keysByKid cache
      let cache := ingestSiblingKeys backend order keysByKid kid nowS jwksUri cache
      let cache := cache.setLastRefreshReason event.reasonEnum.toString
      { verdict := reverifyAfterCommit backend parked verified cache
        refresh := event
        cache }

/-- The loop of the cold path over the kids of a document.  The keys of the token's
kid are tried first, and the one that verifies is moved to the front. -/
def ingestColdGroup
    (backend : Backend)
    (parked : Parked)
    (state : Option VerifyResult × JwksCache)
    (group : (_ : String) × List Jwk) : Option VerifyResult × JwksCache :=
  let nowS := parked.call.opts.nowS
  let jwksUri := parked.call.jwksUri
  let usable := screenUsableKeys backend group.2
  if usable = [] then state
  else if group.1 = parked.parsed.kid then
    let (usable, verified) := prioritizeMatchingKey backend usable
      parked.call.token parked.parsed.alg parked.call.opts
    (verified.or state.1,
      state.2.onPassiveFetchSuccess group.1 usable nowS jwksUri)
  else (state.1, state.2.onPassiveFetchSuccess group.1 usable nowS jwksUri)

/-- The verdict when a document left nothing for the kid in the cache. -/
def verdictWithoutHit
    (backend : Backend)
    (kid : String)
    (keys : List Jwk)
    (keysByKid : UnorderedMap String (List Jwk)) : VerifyResult :=
  match keysByKid.lookup kid with
  | some group =>
      let sawRsaTooSmall := group.any fun k =>
        k.kty = "RSA" && (jwkRsaToPem backend k).2
      if sawRsaTooSmall then .unsupportedKeyType else .unusableKey
  | none =>
      if keys.any fun k => k.kid = kid then .noMatchingKey else .unknownKid

/-- The part of `ValidateToken` from the response on, for a kid that was not
cached. -/
def finishCold
    (backend : Backend)
    (parked : Parked)
    (response : Option Response)
    (order : IterationOrder String (List Jwk))
    (cache : JwksCache) : Outcome :=
  let kid := parked.parsed.kid
  let nowS := parked.call.opts.nowS
  let jwksUri := parked.call.jwksUri
  let finished (verdict : VerifyResult) (cache : JwksCache) : Outcome :=
    { verdict, refresh := parked.call.refresh, cache }
  match readResponse backend response with
  | .failed => finished .jwksFetchFailed cache
  | .noKeys => finished .unknownKid (cache.onFetchMiss kid nowS jwksUri)
  | .keys keys =>
      let cache := cache.recordJwksFetchSuccess nowS jwksUri
      let keysByKid := groupSigningKeysByKid keys
      let (coldVerified, cache) :=
        (order.visit keysByKid).foldl (ingestColdGroup backend parked) (none, cache)
      let secondLookup := cache.lookup kid nowS jwksUri
      if secondLookup.status ≠ .hit ∨ secondLookup.keys = [] then
        finished (verdictWithoutHit backend kid keys keysByKid)
          (cache.onFetchMiss kid nowS jwksUri)
      else
        match coldVerified.filter signatureMatchesCandidate with
        | some verdict => finished verdict cache
        | none =>
            finished (verifyAgainstCachedKid backend parked.call.token
              parked.parsed.alg secondLookup.keys parked.call.opts) cache

/-- A call from its response on. -/
def finishValidation
    (backend : Backend)
    (parked : Parked)
    (response : Option Response)
    (order : IterationOrder String (List Jwk))
    (cache : JwksCache) : Outcome :=
  match parked.route with
  | .refresh reservationId cachedResult =>
      finishRefresh backend parked reservationId cachedResult response order cache
  | .cold => finishCold backend parked response order cache

/-! ## The whole call -/

/-- The HTTP client, asked for a URL, as the cache sees it: while the request is out, others
may change the cache at will. -/
abbrev Get := String → JwksCache → Option Response × JwksCache

/-- Validate a token. -/
def validateToken
    (backend : Backend)
    (get : Get)
    (order : IterationOrder String (List Jwk))
    (call : Call)
    (cache : JwksCache) : Outcome :=
  match beginValidation backend call cache with
  | .finished outcome => outcome
  | .fetching parked cache =>
      let (response, cache) := get call.jwksUri cache
      finishValidation backend parked response order cache

end Validator
end QuackOauth
