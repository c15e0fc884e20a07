import QuackOauth.Jwks.Operation
import QuackOauth.Validator.Document
import QuackOauth.Validator.System

/-!
# Validations as cache operations

Each piece of a call changes the cache by a list of operations, which the call, the
response and the cache determine.  Whatever holds along every run of operations
therefore holds along every run of validations.
-/

namespace QuackOauth
namespace Validator

open Lib Jwks Jwt

/-! ## Up to the request -/

/-- The cache a first piece leaves. -/
def Progress.cache : Progress → JwksCache
  | .finished outcome => outcome.cache
  | .fetching _ cache => cache

/-- Count a refused refresh and say why. -/
def throttleOperations
    (isBudget : Bool)
    (reason : RefreshReason)
    (nowS : Int) : List Operation :=
  [.incrementThrottledRefreshes isBudget nowS, .setLastRefreshReason reason.toString]

/-- What the beginning of a refresh does. -/
def beginRefreshOperations
    (call : Call)
    (parsed : JwtParsed)
    (cache : JwksCache) : List Operation :=
  let nowS := call.opts.nowS
  if !cache.canFetchJwks nowS then throttleOperations true .budgetThrottled nowS
  else
    .tryReserveRefresh parsed.kid nowS call.jwksUri ::
      if (cache.tryReserveRefresh parsed.kid nowS call.jwksUri).1 = 0 then
        throttleOperations false .throttled nowS
      else [.recordJwksFetch nowS]

/-- Whether the cached keys of a token's kid call for a refresh. -/
def callsForRefresh
    (backend : Backend)
    (call : Call)
    (parsed : JwtParsed)
    (keys : List Jwk) : Bool :=
  let matching := matchingKeys keys parsed.alg
  matching = [] ||
    isCachedKeyUnusable (verifyWithCachedKeys backend call.token matching call.opts)

/-- What the first piece of a call does. -/
def beginOperations
    (backend : Backend)
    (call : Call)
    (cache : JwksCache) : List Operation :=
  let nowS := call.opts.nowS
  match parseJwt backend call.token with
  | none => []
  | some parsed =>
      if isForbiddenAlgorithm parsed.alg ||
          !isAlgorithmAllowed parsed.alg call.opts.allowedAlgorithms then []
      else if parsed.kid = "" then []
      else
        let firstLookup := cache.lookup parsed.kid nowS call.jwksUri
        match firstLookup.status with
        | .hit =>
            if callsForRefresh backend call parsed firstLookup.keys then
              beginRefreshOperations call parsed cache
            else []
        | .rateLimited => [.incrementThrottledRefreshes false nowS]
        | .miss =>
            if cache.hasFreshJwksDocument nowS kGlobalFetchBudgetWindowSeconds
                call.jwksUri then []
            else if !cache.canFetchJwks nowS then [.incrementThrottledRefreshes true nowS]
            else [.recordJwksFetch nowS]

theorem beginRefresh_cache
    (call : Call)
    (parsed : JwtParsed)
    (cachedResult : VerifyResult)
    (cache : JwksCache) :
    (beginRefresh call parsed cachedResult cache).cache =
      cache.applyAll (beginRefreshOperations call parsed cache) := by
  unfold beginRefresh beginRefreshOperations
  dsimp only
  split
  · rfl
  · split <;> rfl

theorem beginValidation_cache
    (backend : Backend)
    (call : Call)
    (cache : JwksCache) :
    (beginValidation backend call cache).cache =
      cache.applyAll (beginOperations backend call cache) := by
  unfold beginValidation beginOperations callsForRefresh
  dsimp only
  cases parseJwt backend call.token with
  | none => rfl
  | some parsed =>
      dsimp only
      split
      · rfl
      · split
        · rfl
        · cases (cache.lookup parsed.kid call.opts.nowS call.jwksUri).status with
          | hit =>
              dsimp only
              split
              · next matching =>
                  split
                  · next usable =>
                      simp only [Bool.not_eq_true'] at usable
                      simp [matching, usable, Progress.cache]
                  · next unusable =>
                      simp only [Bool.not_eq_true', Bool.not_eq_false] at unusable
                      simp only [unusable, Bool.or_true, if_true]
                      exact beginRefresh_cache call parsed _ cache
              · next noMatch =>
                  rw [not_not] at noMatch
                  simp only [noMatch, decide_true, Bool.true_or, if_true]
                  exact beginRefresh_cache call parsed _ cache
          | rateLimited => rfl
          | miss =>
              dsimp only
              split
              · rfl
              · split <;> rfl

/-- What a lookup can report. -/
theorem lookup_cases
    (cache : JwksCache)
    (kid : String)
    (nowS : Int)
    (jwksUri : String) :
    (∃ hit, cache.findHit jwksUri kid = some hit ∧
      cache.lookup kid nowS jwksUri = { status := .hit, keys := hit.keys }) ∨
    cache.findHit jwksUri kid = none ∧
      ((cache.lookup kid nowS jwksUri).status = .rateLimited ∨
        cache.lookup kid nowS jwksUri = {}) := by
  unfold JwksCache.lookup
  cases cache.findHit jwksUri kid with
  | some hit => exact .inl ⟨hit, rfl, rfl⟩
  | none =>
      refine .inr ⟨rfl, ?_⟩
      cases cache.findMiss jwksUri kid with
      | none => exact .inr rfl
      | some miss =>
          dsimp only
          cases relateClock nowS miss.recordedAtS with
          | forward =>
              dsimp only
              split
              · exact .inl rfl
              · exact .inr rfl
          | minorRewind => exact .inl rfl
          | reset => exact .inr rfl

theorem lookup_of_findHit
    {cache : JwksCache}
    {kid jwksUri : String}
    {nowS : Int}
    {hit : Entry}
    (found : cache.findHit jwksUri kid = some hit) :
    cache.lookup kid nowS jwksUri = { status := .hit, keys := hit.keys } := by
  rw [JwksCache.lookup, found]

/-- A kid that is not cached is not hit. -/
theorem status_ne_hit
    {cache : JwksCache}
    {kid jwksUri : String}
    (nowS : Int)
    (absent : cache.findHit jwksUri kid = none) :
    (cache.lookup kid nowS jwksUri).status ≠ .hit := by
  rcases lookup_cases cache kid nowS jwksUri with
    ⟨hit, found, -⟩ | ⟨-, isLimited | isMiss⟩
  · cases absent.symm.trans found
  · simp [isLimited]
  · simp [isMiss]

/-- Everything the first piece of a call can do. -/
inductive Begun
    (backend : Backend)
    (call : Call)
    (cache : JwksCache) : Progress → Prop
  /-- The header is refused, or the issuer's document, read just now, lacks the kid. -/
  | refused (verdict : VerifyResult) :
      verdict ≠ .ok →
      (∀ parsed, HeaderAdmitted backend call parsed →
        cache.findHit call.jwksUri parsed.kid = none) →
      Begun backend call cache (.finished { verdict, refresh := call.refresh, cache })
  /-- The cached keys decide. -/
  | cached (parsed : JwtParsed) (hit : Entry) :
      HeaderAdmitted backend call parsed →
      cache.findHit call.jwksUri parsed.kid = some hit →
      callsForRefresh backend call parsed hit.keys = false →
      Begun backend call cache (.finished {
        verdict := verifyWithCachedKeys backend call.token
          (matchingKeys hit.keys parsed.alg) call.opts
        refresh := call.refresh
        cache })
  /-- A refresh is due, but not within the budget. -/
  | budgetThrottled (parsed : JwtParsed) (hit : Entry) (cachedResult : VerifyResult) :
      HeaderAdmitted backend call parsed →
      cache.findHit call.jwksUri parsed.kid = some hit →
      callsForRefresh backend call parsed hit.keys = true →
      cachedResult ≠ .ok →
      Begun backend call cache (.finished {
        verdict := cachedResult
        refresh := refreshEvent parsed.kid .budgetThrottled
        cache := (cache.incrementThrottledRefreshes true
          call.opts.nowS).setLastRefreshReason RefreshReason.budgetThrottled.toString })
  /-- The kid was refreshed less than an interval ago. -/
  | reserveThrottled (parsed : JwtParsed) (hit : Entry) (cachedResult : VerifyResult) :
      HeaderAdmitted backend call parsed →
      cache.findHit call.jwksUri parsed.kid = some hit →
      callsForRefresh backend call parsed hit.keys = true →
      cachedResult ≠ .ok →
      (cache.tryReserveRefresh parsed.kid call.opts.nowS call.jwksUri).1 = 0 →
      Begun backend call cache (.finished {
        verdict := cachedResult
        refresh := refreshEvent parsed.kid .throttled
        cache := ((cache.tryReserveRefresh parsed.kid call.opts.nowS
          call.jwksUri).2.incrementThrottledRefreshes false
            call.opts.nowS).setLastRefreshReason RefreshReason.throttled.toString })
  /-- A refresh is reserved. -/
  | refreshing (parsed : JwtParsed) (hit : Entry) (cachedResult : VerifyResult) :
      HeaderAdmitted backend call parsed →
      cache.findHit call.jwksUri parsed.kid = some hit →
      callsForRefresh backend call parsed hit.keys = true →
      cachedResult ≠ .ok →
      cache.canFetchJwks call.opts.nowS = true →
      (cache.tryReserveRefresh parsed.kid call.opts.nowS call.jwksUri).1 ≠ 0 →
      Begun backend call cache (.fetching
        { call, parsed
          route := .refresh
            (cache.tryReserveRefresh parsed.kid call.opts.nowS call.jwksUri).1
            cachedResult }
        ((cache.tryReserveRefresh parsed.kid call.opts.nowS
          call.jwksUri).2.recordJwksFetch call.opts.nowS))
  /-- The kid is not cached, and a fetch is not allowed now. -/
  | coldThrottled (parsed : JwtParsed) (isBudget : Bool) (reason : RefreshReason) :
      HeaderAdmitted backend call parsed →
      cache.findHit call.jwksUri parsed.kid = none →
      Begun backend call cache (.finished {
        verdict := .jwksThrottled
        refresh := refreshEvent parsed.kid reason
        cache := cache.incrementThrottledRefreshes isBudget call.opts.nowS })
  /-- The kid is neither cached nor known to be missing. -/
  | cold (parsed : JwtParsed) :
      HeaderAdmitted backend call parsed →
      cache.findHit call.jwksUri parsed.kid = none →
      cache.lookup parsed.kid call.opts.nowS call.jwksUri = {} →
      cache.canFetchJwks call.opts.nowS = true →
      Begun backend call cache (.fetching { call, parsed, route := .cold }
        (cache.recordJwksFetch call.opts.nowS))

theorem HeaderAdmitted.unique
    {backend : Backend}
    {call : Call}
    {parsed other : JwtParsed}
    (admitted : HeaderAdmitted backend call parsed)
    (also : HeaderAdmitted backend call other) :
    parsed = other :=
  Option.some.inj (admitted.parses.symm.trans also.parses)

theorem beginRefresh_begun
    {backend : Backend}
    {call : Call}
    {parsed : JwtParsed}
    {hit : Entry}
    {cachedResult : VerifyResult}
    {cache : JwksCache}
    (admitted : HeaderAdmitted backend call parsed)
    (found : cache.findHit call.jwksUri parsed.kid = some hit)
    (calls : callsForRefresh backend call parsed hit.keys = true)
    (rejected : cachedResult ≠ .ok) :
    Begun backend call cache (beginRefresh call parsed cachedResult cache) := by
  unfold beginRefresh
  dsimp only
  split
  · exact .budgetThrottled parsed hit cachedResult admitted found calls rejected
  · next allowed =>
      rw [Bool.not_eq_true', Bool.not_eq_false] at allowed
      split
      · next refused =>
          exact .reserveThrottled parsed hit cachedResult admitted found calls rejected
            refused
      · next granted =>
          exact .refreshing parsed hit cachedResult admitted found calls rejected allowed
            granted

/-- The first piece of a call does one of these things. -/
theorem beginValidation_begun
    (backend : Backend)
    (call : Call)
    (cache : JwksCache) :
    Begun backend call cache (beginValidation backend call cache) := by
  have refusesHeader : ∀ verdict : VerifyResult, verdict ≠ .ok →
      (∀ parsed, ¬HeaderAdmitted backend call parsed) →
      Begun backend call cache (.finished { verdict, refresh := call.refresh, cache }) :=
    fun verdict rejects notAdmitted =>
      .refused verdict rejects fun parsed admitted => absurd admitted (notAdmitted parsed)
  unfold beginValidation
  dsimp only
  split
  · next malformed =>
      refine refusesHeader _ (by decide) fun parsed admitted => ?_
      cases malformed.symm.trans admitted.parses
  · next parsed parses =>
      split
      · next disallowed =>
          refine refusesHeader _ (by decide) fun other admitted => ?_
          cases parses.symm.trans admitted.parses
          simp [admitted.notForbidden, admitted.allowed] at disallowed
      · next algorithm =>
          split
          · next noKid =>
              refine refusesHeader _ (by decide) fun other admitted => ?_
              cases parses.symm.trans admitted.parses
              exact admitted.kid_ne noKid
          · next kid_ne =>
              have admitted : HeaderAdmitted backend call parsed := by
                simp only [Bool.or_eq_true, Bool.not_eq_true', not_or,
                  Bool.not_eq_true, Bool.not_eq_false] at algorithm
                exact ⟨parses, kid_ne, algorithm.1, algorithm.2⟩
              rcases lookup_cases cache parsed.kid call.opts.nowS call.jwksUri with
                ⟨hit, found, isHit⟩ | ⟨absent, isLimited | isMiss⟩
              · simp only [isHit]
                split
                · next matching =>
                    split
                    · next usable =>
                        refine .cached parsed hit admitted found ?_
                        simpa [callsForRefresh, matching] using usable
                    · next unusable =>
                        have calls : callsForRefresh backend call parsed hit.keys = true := by
                          simpa [callsForRefresh, matching] using unusable
                        refine beginRefresh_begun admitted found calls fun accepts => ?_
                        rw [accepts] at unusable
                        exact unusable rfl
                · next noMatch =>
                    rw [not_not] at noMatch
                    refine beginRefresh_begun admitted found ?_ (by decide)
                    simp [callsForRefresh, noMatch]
              · simp only [isLimited]
                exact .coldThrottled parsed false .throttled admitted absent
              · simp only [isMiss]
                split
                · refine .refused _ (by decide) fun other alsoAdmitted => ?_
                  rwa [← admitted.unique alsoAdmitted]
                · split
                  · exact .coldThrottled parsed true .budgetThrottled admitted absent
                  · next allowed =>
                      rw [Bool.not_eq_true', Bool.not_eq_false] at allowed
                      exact .cold parsed admitted absent isMiss allowed

/-- A token that the cached keys decide gets their verdict at once. -/
theorem beginValidation_of_cached
    {backend : Backend}
    {call : Call}
    {parsed : JwtParsed}
    {hit : Entry}
    {cache : JwksCache}
    (admitted : HeaderAdmitted backend call parsed)
    (found : cache.findHit call.jwksUri parsed.kid = some hit)
    (decides : callsForRefresh backend call parsed hit.keys = false) :
    beginValidation backend call cache = .finished {
      verdict := verifyWithCachedKeys backend call.token (matchingKeys hit.keys parsed.alg)
        call.opts
      refresh := call.refresh
      cache } := by
  have begun := beginValidation_begun backend call cache
  generalize beginValidation backend call cache = progress at begun
  cases begun with
  | refused verdict rejects absent => cases found.symm.trans (absent parsed admitted)
  | cached other present also isHit =>
      cases admitted.unique also
      cases found.symm.trans isHit
      rfl
  | budgetThrottled other present cachedResult also isHit calls =>
      cases admitted.unique also
      cases found.symm.trans isHit
      cases decides.symm.trans calls
  | reserveThrottled other present cachedResult also isHit calls =>
      cases admitted.unique also
      cases found.symm.trans isHit
      cases decides.symm.trans calls
  | refreshing other present cachedResult also isHit calls =>
      cases admitted.unique also
      cases found.symm.trans isHit
      cases decides.symm.trans calls
  | coldThrottled other isBudget reason also absent =>
      cases admitted.unique also
      cases found.symm.trans absent
  | cold other also absent =>
      cases admitted.unique also
      cases found.symm.trans absent

/-! ## From the response on -/

/-- What the commit attempt of a refresh does. -/
def commitOperations
    (backend : Backend)
    (parked : Parked)
    (reservationId : Nat)
    (keysByKid : UnorderedMap String (List Jwk))
    (cache : JwksCache) : List Operation :=
  let kid := parked.parsed.kid
  let nowS := parked.call.opts.nowS
  let jwksUri := parked.call.jwksUri
  match keysByKid.lookup kid with
  | none => [.recordKidAbsent kid reservationId nowS jwksUri]
  | some group =>
      if screenUsableKeys backend group = [] then []
      else
        let liveKeys := (cache.lookup kid nowS jwksUri).keys
        [.commitRefresh kid reservationId
          (commitCandidates backend parked group liveKeys).1 nowS jwksUri]

/-- What ingesting the siblings does. -/
def siblingOperations
    (backend : Backend)
    (order : IterationOrder String (List Jwk))
    (keysByKid : UnorderedMap String (List Jwk))
    (targetKid : String)
    (nowS : Int)
    (jwksUri : String) : List Operation :=
  let presentKids := keysByKid.keys.filter fun kid => kid ≠ ""
  .reconcileAbsentKids presentKids jwksUri targetKid ::
    ((order.visit keysByKid).filter fun group => group.1 ≠ targetKid).map fun group =>
      .onPassiveFetchSuccess group.1 (screenUsableKeys backend group.2) nowS jwksUri

/-- What a refresh does from its response on. -/
def refreshOperations
    (backend : Backend)
    (parked : Parked)
    (reservationId : Nat)
    (response : Option Response)
    (order : IterationOrder String (List Jwk))
    (cache : JwksCache) : List Operation :=
  let kid := parked.parsed.kid
  let nowS := parked.call.opts.nowS
  let jwksUri := parked.call.jwksUri
  match readResponse backend response with
  | .failed => [.setLastRefreshReason RefreshReason.fetchFailed.toString]
  | .noKeys => [.setLastRefreshReason RefreshReason.parseFailed.toString]
  | .keys keys =>
      let cache := cache.recordJwksFetchSuccess nowS jwksUri
      let keysByKid := groupSigningKeysByKid keys
      let event := (commitTargetKid backend parked reservationId keysByKid cache).2.1
      .recordJwksFetchSuccess nowS jwksUri ::
        (commitOperations backend parked reservationId keysByKid cache ++
          siblingOperations backend order keysByKid kid nowS jwksUri ++
          [.setLastRefreshReason event.reasonEnum.toString])

/-- The keys that a cold call ingests for a kid of its document. -/
def coldGroupKeys
    (backend : Backend)
    (parked : Parked)
    (group : (_ : String) × List Jwk) : List Jwk :=
  if group.1 = parked.parsed.kid then
    (prioritizeMatchingKey backend (screenUsableKeys backend group.2)
      parked.call.token parked.parsed.alg parked.call.opts).1
  else screenUsableKeys backend group.2

/-- What ingesting a document on the cold path does. -/
def ingestOperations
    (backend : Backend)
    (parked : Parked)
    (groups : List ((_ : String) × List Jwk)) : List Operation :=
  groups.map fun group =>
    .onPassiveFetchSuccess group.1 (coldGroupKeys backend parked group)
      parked.call.opts.nowS parked.call.jwksUri

/-- What a cold call does from its response on. -/
def coldOperations
    (backend : Backend)
    (parked : Parked)
    (response : Option Response)
    (order : IterationOrder String (List Jwk))
    (cache : JwksCache) : List Operation :=
  let kid := parked.parsed.kid
  let nowS := parked.call.opts.nowS
  let jwksUri := parked.call.jwksUri
  match readResponse backend response with
  | .failed => []
  | .noKeys => [.onFetchMiss kid nowS jwksUri]
  | .keys keys =>
      let ingests := .recordJwksFetchSuccess nowS jwksUri ::
        ingestOperations backend parked (order.visit (groupSigningKeysByKid keys))
      let secondLookup := (cache.applyAll ingests).lookup kid nowS jwksUri
      if secondLookup.status ≠ .hit ∨ secondLookup.keys = [] then
        ingests ++ [.onFetchMiss kid nowS jwksUri]
      else ingests

/-- What a call does from its response on. -/
def finishOperations
    (backend : Backend)
    (parked : Parked)
    (response : Option Response)
    (order : IterationOrder String (List Jwk))
    (cache : JwksCache) : List Operation :=
  match parked.route with
  | .refresh reservationId _ =>
      refreshOperations backend parked reservationId response order cache
  | .cold => coldOperations backend parked response order cache

variable {backend : Backend} {parked : Parked} {response : Option Response}
variable {order : IterationOrder String (List Jwk)} {cache : JwksCache}

theorem coldGroupKeys_perm
    (backend : Backend)
    (parked : Parked)
    (group : (_ : String) × List Jwk) :
    (coldGroupKeys backend parked group).Perm (screenUsableKeys backend group.2) := by
  unfold coldGroupKeys
  split
  · exact prioritizeMatchingKey_perm _ _ _ _ _
  · exact List.Perm.refl _

theorem commitCandidates_perm
    (backend : Backend)
    (parked : Parked)
    (group liveKeys : List Jwk) :
    (commitCandidates backend parked group liveKeys).1.Perm
      (screenUsableKeys backend group) := by
  have moved := prioritizeMatchingKey_perm backend (screenUsableKeys backend group)
    parked.call.token parked.parsed.alg parked.call.opts
  unfold commitCandidates
  dsimp only
  split
  · exact (prioritizeNewKeys_perm _ _).trans moved
  · exact moved

theorem commitTargetKid_cache
    (reservationId : Nat)
    (keysByKid : UnorderedMap String (List Jwk))
    (cache : JwksCache) :
    (commitTargetKid backend parked reservationId keysByKid cache).2.2 =
      cache.applyAll
        (commitOperations backend parked reservationId keysByKid cache) := by
  unfold commitTargetKid commitOperations
  dsimp only
  cases keysByKid.lookup parked.parsed.kid with
  | none => rfl
  | some group =>
      dsimp only
      split <;> rfl

theorem ingestSiblingKeys_cache
    (keysByKid : UnorderedMap String (List Jwk))
    (targetKid : String)
    (nowS : Int)
    (jwksUri : String)
    (cache : JwksCache) :
    ingestSiblingKeys backend order keysByKid targetKid nowS jwksUri cache =
      cache.applyAll
        (siblingOperations backend order keysByKid targetKid nowS jwksUri) := by
  rw [siblingOperations, JwksCache.applyAll, Machine.run_cons, Machine.run,
    List.foldl_map]
  rfl

theorem finishRefresh_cache
    (reservationId : Nat)
    (cachedResult : VerifyResult)
    (response : Option Response)
    (order : IterationOrder String (List Jwk))
    (cache : JwksCache) :
    (finishRefresh backend parked reservationId cachedResult response order cache).cache =
      cache.applyAll
        (refreshOperations backend parked reservationId response order cache) := by
  unfold finishRefresh refreshOperations
  cases readResponse backend response with
  | failed => rfl
  | noKeys => rfl
  | keys keys =>
      dsimp only
      rw [JwksCache.applyAll, Machine.run_cons, Machine.run_append, Machine.run_append,
        ingestSiblingKeys_cache, commitTargetKid_cache]
      rfl

theorem foldl_ingestColdGroup_cache
    (groups : List ((_ : String) × List Jwk))
    (start : Option VerifyResult × JwksCache) :
    (groups.foldl (ingestColdGroup backend parked) start).2 =
      start.2.applyAll (ingestOperations backend parked groups) := by
  induction groups generalizing start with
  | nil => rfl
  | cons group groups inductionHypothesis =>
      have ingests : (ingestColdGroup backend parked start group).2 =
          start.2.onPassiveFetchSuccess group.1 (coldGroupKeys backend parked group)
            parked.call.opts.nowS parked.call.jwksUri := ?_
      · rw [List.foldl_cons, inductionHypothesis, ingests]
        rfl
      unfold ingestColdGroup coldGroupKeys
      dsimp only
      by_cases unusable : screenUsableKeys backend group.2 = []
      · -- Nothing to ingest is ingested without effect.
        rw [if_pos unusable, unusable]
        split
        · simp [prioritizeMatchingKey, JwksCache.onPassiveFetchSuccess]
        · simp [JwksCache.onPassiveFetchSuccess]
      · rw [if_neg unusable]
        split <;> rfl

theorem finishCold_cache
    (response : Option Response)
    (order : IterationOrder String (List Jwk))
    (cache : JwksCache) :
    (finishCold backend parked response order cache).cache =
      cache.applyAll (coldOperations backend parked response order cache) := by
  unfold finishCold coldOperations
  cases readResponse backend response with
  | failed => rfl
  | noKeys => rfl
  | keys keys =>
      have ingested : ((order.visit (groupSigningKeysByKid keys)).foldl
          (ingestColdGroup backend parked) (none, cache.recordJwksFetchSuccess
            parked.call.opts.nowS parked.call.jwksUri)).2 =
          cache.applyAll (.recordJwksFetchSuccess parked.call.opts.nowS
            parked.call.jwksUri :: ingestOperations backend parked
              (order.visit (groupSigningKeysByKid keys))) :=
        foldl_ingestColdGroup_cache _ _
      dsimp only
      rw [ingested]
      split
      · rw [JwksCache.applyAll, Machine.run_append]
        rfl
      · split <;> rfl

theorem finishValidation_cache
    (parked : Parked)
    (response : Option Response)
    (order : IterationOrder String (List Jwk))
    (cache : JwksCache) :
    (finishValidation backend parked response order cache).cache =
      cache.applyAll (finishOperations backend parked response order cache) := by
  unfold finishValidation finishOperations
  cases parked.route with
  | refresh reservationId cachedResult =>
      exact finishRefresh_cache reservationId cachedResult response order cache
  | cold => exact finishCold_cache response order cache

/-- An HTTP client that answers while no other call runs. -/
def answering (response : Option Response) : Get :=
  fun _ cache => (response, cache)

/-- What a whole call does while no other call runs. -/
def callOperations
    (backend : Backend)
    (response : Option Response)
    (order : IterationOrder String (List Jwk))
    (call : Call)
    (cache : JwksCache) : List Operation :=
  beginOperations backend call cache ++
    match beginValidation backend call cache with
    | .finished _ => []
    | .fetching parked requesting =>
        finishOperations backend parked response order requesting

/-- A call does something before its request or, if it sends one, with the response. -/
theorem mem_callOperations
    {response : Option Response}
    {order : IterationOrder String (List Jwk)}
    {call : Call}
    {cache : JwksCache}
    {operation : Operation}
    (member : operation ∈ callOperations backend response order call cache) :
    operation ∈ beginOperations backend call cache ∨
      ∃ parked requesting,
        beginValidation backend call cache = .fetching parked requesting ∧
        operation ∈ finishOperations backend parked response order requesting := by
  rcases List.mem_append.mp member with begins | finishes
  · exact .inl begins
  · cases begun : beginValidation backend call cache with
    | finished outcome => simp [begun] at finishes
    | fetching parked requesting =>
        simp only [begun] at finishes
        exact .inr ⟨parked, requesting, rfl, finishes⟩

theorem validateToken_cache
    (response : Option Response)
    (order : IterationOrder String (List Jwk))
    (call : Call)
    (cache : JwksCache) :
    (validateToken backend (answering response) order call cache).cache =
      cache.applyAll (callOperations backend response order call cache) := by
  have begins := beginValidation_cache backend call cache
  rw [callOperations, JwksCache.applyAll, Machine.run_append, ← JwksCache.applyAll,
    ← begins, validateToken]
  cases beginValidation backend call cache with
  | finished outcome => rfl
  | fetching parked requesting =>
      exact finishValidation_cache parked response order requesting

/-! ## Whose operations they are -/

/-- An operation for one issuer, with a kid that can be told apart. -/
structure IssuedFor (jwksUri : String) (operation : Operation) : Prop where
  issuer : ∀ other ∈ operation.jwksUri?, other = jwksUri
  printable : operation.Printable

theorem issuedFor_of_none
    {jwksUri : String}
    {operation : Operation}
    (noIssuer : operation.jwksUri? = none)
    (noKid : operation.kid? = none) :
    IssuedFor jwksUri operation where
  issuer := by simp [noIssuer]
  printable := by simp [Operation.Printable, noKid]

theorem issuedFor_of_kid
    {jwksUri kid : String}
    {operation : Operation}
    (issuer : operation.jwksUri? = some jwksUri)
    (hasKid : operation.kid? = some kid)
    (printable : '\n' ∉ kid.toList) :
    IssuedFor jwksUri operation where
  issuer := by simp [issuer]
  printable := by simpa [Operation.Printable, hasKid] using printable

/-- Everything the first piece of a call does. -/
inductive Beginning
    (backend : Backend)
    (call : Call) : Operation → Prop
  | throttle (isBudget : Bool) :
      Beginning backend call (.incrementThrottledRefreshes isBudget call.opts.nowS)
  | reason (reason : String) : Beginning backend call (.setLastRefreshReason reason)
  | reserve (parsed : JwtParsed) :
      parseJwt backend call.token = some parsed →
      Beginning backend call
        (.tryReserveRefresh parsed.kid call.opts.nowS call.jwksUri)
  | charge : Beginning backend call (.recordJwksFetch call.opts.nowS)

theorem throttleOperations_beginning
    {call : Call}
    {isBudget : Bool}
    {reason : RefreshReason}
    {operation : Operation}
    (member : operation ∈ throttleOperations isBudget reason call.opts.nowS) :
    Beginning backend call operation := by
  simp only [throttleOperations, List.mem_cons, List.not_mem_nil, or_false] at member
  rcases member with rfl | rfl
  · exact .throttle isBudget
  · exact .reason _

theorem beginRefreshOperations_beginning
    {call : Call}
    {parsed : JwtParsed}
    (parses : parseJwt backend call.token = some parsed)
    {operation : Operation}
    (member : operation ∈ beginRefreshOperations call parsed cache) :
    Beginning backend call operation := by
  unfold beginRefreshOperations at member
  dsimp only at member
  split at member
  · exact throttleOperations_beginning member
  · rcases List.mem_cons.mp member with rfl | rest
    · exact .reserve parsed parses
    · split at rest
      · exact throttleOperations_beginning rest
      · rw [List.mem_singleton.mp rest]
        exact .charge

theorem mem_beginOperations
    {call : Call}
    {operation : Operation}
    (member : operation ∈ beginOperations backend call cache) :
    Beginning backend call operation := by
  unfold beginOperations at member
  cases parses : parseJwt backend call.token with
  | none => simp [parses] at member
  | some parsed =>
      simp only [parses] at member
      split at member
      · cases member
      · split at member
        · cases member
        · cases status : (cache.lookup parsed.kid call.opts.nowS call.jwksUri).status with
          | hit =>
              simp only [status] at member
              split at member
              · exact beginRefreshOperations_beginning parses member
              · cases member
          | rateLimited =>
              simp only [status, List.mem_singleton] at member
              rw [member]
              exact .throttle false
          | miss =>
              simp only [status] at member
              split at member
              · cases member
              · split at member
                · rw [List.mem_singleton.mp member]
                  exact .throttle true
                · rw [List.mem_singleton.mp member]
                  exact .charge

theorem beginOperations_issued
    {call : Call}
    {operation : Operation}
    (member : operation ∈ beginOperations backend call cache) :
    IssuedFor call.jwksUri operation := by
  cases mem_beginOperations member with
  | throttle => exact issuedFor_of_none rfl rfl
  | reason => exact issuedFor_of_none rfl rfl
  | reserve parsed parses =>
      have printable := newline_notMem_of_kidAcceptable (parseJwt_some parses).2.1
      exact issuedFor_of_kid rfl rfl printable
  | charge => exact issuedFor_of_none rfl rfl

/-- Everything a call does from its response on. -/
inductive Finishing
    (backend : Backend)
    (parked : Parked)
    (response : Option Response) : Operation → Prop
  | reason (reason : String) :
      parked.route ≠ .cold →
      Finishing backend parked response (.setLastRefreshReason reason)
  | missed :
      parked.route = .cold →
      Finishing backend parked response
        (.onFetchMiss parked.parsed.kid parked.call.opts.nowS parked.call.jwksUri)
  | read (keys : List Jwk) :
      readResponse backend response = .keys keys →
      Finishing backend parked response
        (.recordJwksFetchSuccess parked.call.opts.nowS parked.call.jwksUri)
  | absent (keys : List Jwk) (reservationId : Nat) (cachedResult : VerifyResult) :
      readResponse backend response = .keys keys →
      parked.route = .refresh reservationId cachedResult →
      listedKeys keys parked.parsed.kid = [] →
      Finishing backend parked response
        (.recordKidAbsent parked.parsed.kid reservationId parked.call.opts.nowS
          parked.call.jwksUri)
  | commit
      (keys candidates : List Jwk) (reservationId : Nat) (cachedResult : VerifyResult) :
      readResponse backend response = .keys keys →
      parked.route = .refresh reservationId cachedResult →
      candidates.Perm (usableKeys backend keys parked.parsed.kid) → candidates ≠ [] →
      Finishing backend parked response
        (.commitRefresh parked.parsed.kid reservationId candidates parked.call.opts.nowS
          parked.call.jwksUri)
  | reconcile (keys : List Jwk) :
      readResponse backend response = .keys keys → parked.route ≠ .cold →
      Finishing backend parked response
        (.reconcileAbsentKids
          ((groupSigningKeysByKid keys).keys.filter fun kid => kid ≠ "")
          parked.call.jwksUri parked.parsed.kid)
  | ingest (keys : List Jwk) (kid : String) (ingested : List Jwk) :
      readResponse backend response = .keys keys →
      listedKeys keys kid ≠ [] → ingested.Perm (usableKeys backend keys kid) →
      (parked.route = .cold ∨ kid ≠ parked.parsed.kid) →
      Finishing backend parked response
        (.onPassiveFetchSuccess kid ingested parked.call.opts.nowS parked.call.jwksUri)

/-- A commit records that the kid is absent, or stores the usable keys that are listed
under it. -/
theorem mem_commitOperations
    {keys : List Jwk}
    {reservationId : Nat}
    {operation : Operation}
    (member : operation ∈ commitOperations backend parked reservationId
      (groupSigningKeysByKid keys) cache) :
    listedKeys keys parked.parsed.kid = [] ∧
        operation = .recordKidAbsent parked.parsed.kid reservationId parked.call.opts.nowS
          parked.call.jwksUri ∨
      ∃ candidates, candidates.Perm (usableKeys backend keys parked.parsed.kid) ∧
        candidates ≠ [] ∧
        operation = .commitRefresh parked.parsed.kid reservationId candidates
          parked.call.opts.nowS parked.call.jwksUri := by
  unfold commitOperations at member
  dsimp only at member
  cases grouped : (groupSigningKeysByKid keys).lookup parked.parsed.kid with
  | none =>
      rw [grouped] at member
      exact .inl ⟨lookup_groupSigningKeysByKid_eq_none.mp grouped,
        List.mem_singleton.mp member⟩
  | some group =>
      simp only [grouped] at member
      obtain ⟨rfl, -⟩ := lookup_groupSigningKeysByKid_eq_some.mp grouped
      split at member
      · cases member
      · next usable =>
          have arranged := commitCandidates_perm backend parked
            (listedKeys keys parked.parsed.kid)
            (cache.lookup parked.parsed.kid parked.call.opts.nowS parked.call.jwksUri).keys
          refine .inr ⟨_, arranged, ?_, List.mem_singleton.mp member⟩
          intro empty
          rw [empty] at arranged
          exact usable arranged.nil_eq.symm

theorem commitOperations_finishing
    {keys : List Jwk}
    {reservationId : Nat}
    {cachedResult : VerifyResult}
    (read : readResponse backend response = .keys keys)
    (route : parked.route = .refresh reservationId cachedResult)
    {operation : Operation}
    (member : operation ∈ commitOperations backend parked reservationId
      (groupSigningKeysByKid keys) cache) :
    Finishing backend parked response operation := by
  rcases mem_commitOperations member with ⟨unlisted, rfl⟩ | ⟨candidates, arranged, nonempty, rfl⟩
  · exact .absent keys reservationId cachedResult read route unlisted
  · exact .commit keys candidates reservationId cachedResult read route arranged nonempty

/-- What a loop over the groups of a document ingests. -/
theorem ingest_finishing
    {keys : List Jwk}
    {ingested : (_ : String) × List Jwk → List Jwk}
    {groups : List ((_ : String) × List Jwk)}
    (read : readResponse backend response = .keys keys)
    (visited : ∀ group ∈ groups,
      (groupSigningKeysByKid keys).lookup group.1 = some group.2 ∧
      (ingested group).Perm (screenUsableKeys backend group.2) ∧
      (parked.route = .cold ∨ group.1 ≠ parked.parsed.kid))
    {operation : Operation}
    (member : operation ∈ groups.map fun group => .onPassiveFetchSuccess group.1
      (ingested group) parked.call.opts.nowS parked.call.jwksUri) :
    Finishing backend parked response operation := by
  obtain ⟨group, inGroups, rfl⟩ := List.mem_map.mp member
  obtain ⟨grouped, arranged, notTarget⟩ := visited group inGroups
  obtain ⟨group_eq, nonempty⟩ := lookup_groupSigningKeysByKid_eq_some.mp grouped
  rw [group_eq] at arranged nonempty
  exact .ingest keys group.1 (ingested group) read nonempty arranged notTarget

theorem mem_finishOperations
    {operation : Operation}
    (member : operation ∈ finishOperations backend parked response order cache) :
    Finishing backend parked response operation := by
  unfold finishOperations at member
  cases route : parked.route with
  | refresh reservationId cachedResult =>
      have notCold : parked.route ≠ .cold := by simp [route]
      simp only [route, refreshOperations] at member
      cases read : readResponse backend response with
      | failed =>
          simp only [read, List.mem_singleton] at member
          rw [member]
          exact .reason _ notCold
      | noKeys =>
          simp only [read, List.mem_singleton] at member
          rw [member]
          exact .reason _ notCold
      | keys keys =>
          simp only [read, List.mem_cons, List.mem_append, List.not_mem_nil,
            or_false] at member
          rcases member with rfl | (commits | siblings) | rfl
          · exact .read keys read
          · exact commitOperations_finishing read route commits
          · rcases List.mem_cons.mp siblings with rfl | ingests
            · exact .reconcile keys read notCold
            · refine ingest_finishing read (fun group inGroups => ?_) ingests
              obtain ⟨inDocument, isSibling⟩ := List.mem_filter.mp inGroups
              exact ⟨IterationOrder.mem_visit.mp inDocument, List.Perm.refl _,
                .inr (of_decide_eq_true isSibling)⟩
          · exact .reason _ notCold
  | cold =>
      simp only [route, coldOperations] at member
      cases read : readResponse backend response with
      | failed => simp [read] at member
      | noKeys =>
          simp only [read, List.mem_singleton] at member
          rw [member]
          exact .missed route
      | keys keys =>
          have ingests : ∀ operation ∈ .recordJwksFetchSuccess parked.call.opts.nowS
              parked.call.jwksUri :: ingestOperations backend parked
                (order.visit (groupSigningKeysByKid keys)),
              Finishing backend parked response operation := by
            intro operation member
            rcases List.mem_cons.mp member with rfl | ingests
            · exact .read keys read
            · refine ingest_finishing read (fun group inGroups => ?_) ingests
              exact ⟨IterationOrder.mem_visit.mp inGroups,
                coldGroupKeys_perm backend parked group, .inl route⟩
          simp only [read] at member
          split at member
          · rcases List.mem_append.mp member with ingested | missed
            · exact ingests operation ingested
            · rw [List.mem_singleton.mp missed]
              exact .missed route
          · exact ingests operation member

theorem beginOperations_nowS
    {call : Call}
    {operation : Operation}
    (member : operation ∈ beginOperations backend call cache) :
    ∀ stamp ∈ operation.nowS?, stamp = call.opts.nowS := by
  cases mem_beginOperations member <;> simp [Operation.nowS?]


theorem finishOperations_nowS
    {operation : Operation}
    (member : operation ∈ finishOperations backend parked response order cache) :
    ∀ stamp ∈ operation.nowS?, stamp = parked.call.opts.nowS := by
  cases mem_finishOperations member <;> simp [Operation.nowS?]

/-- All operations of a call take place at the time of the call. -/
theorem callOperations_nowS
    {call : Call}
    {operation : Operation}
    (member : operation ∈ callOperations backend response order call cache) :
    ∀ stamp ∈ operation.nowS?, stamp = call.opts.nowS := by
  rcases mem_callOperations member with begins | ⟨parked, requesting, begun, finishes⟩
  · exact beginOperations_nowS begins
  · rw [← ((beginValidation_spec backend call cache).2 _ _ begun).call_eq]
    exact finishOperations_nowS finishes

theorem finishOperations_issued
    (printable : '\n' ∉ parked.parsed.kid.toList)
    {operation : Operation}
    (member : operation ∈ finishOperations backend parked response order cache) :
    IssuedFor parked.call.jwksUri operation := by
  cases mem_finishOperations member with
  | reason => exact issuedFor_of_none rfl rfl
  | missed => exact issuedFor_of_kid rfl rfl printable
  | read =>
      exact ⟨by simp [Operation.jwksUri?], by simp [Operation.Printable, Operation.kid?]⟩
  | absent => exact issuedFor_of_kid rfl rfl printable
  | commit => exact issuedFor_of_kid rfl rfl printable
  | reconcile =>
      exact ⟨by simp [Operation.jwksUri?], by simp [Operation.Printable, Operation.kid?]⟩
  | ingest keys kid ingested read listed =>
      exact issuedFor_of_kid rfl rfl (printable_of_listed read listed)

namespace System

variable {system : System}

/-- What a step does to the cache. -/
def stepOperations
    (backend : Backend)
    (system : System) : Label → List Operation
  | .begin call => beginOperations backend call system.cache
  | .resume request response order =>
      match system.inFlight.lookup request with
      | none => []
      | some parked => finishOperations backend parked response order system.cache

theorem step_cache
    (backend : Backend)
    (system : System)
    (label : Label) :
    (step backend system label).cache =
      system.cache.applyAll (stepOperations backend system label) := by
  cases label with
  | begin call =>
      have left := beginValidation_cache backend call system.cache
      rw [stepOperations, ← left, step]
      cases beginValidation backend call system.cache <;> rfl
  | resume request response order =>
      rw [stepOperations, step]
      cases system.inFlight.lookup request with
      | none => rfl
      | some parked => exact finishValidation_cache parked response order system.cache

/-- What a run does to the cache. -/
def runOperations
    (backend : Backend) : System → List Label → List Operation
  | _, [] => []
  | system, label :: labels =>
      stepOperations backend system label ++
        runOperations backend (step backend system label) labels

theorem run_cache
    (backend : Backend)
    (system : System)
    (labels : List Label) :
    (run backend system labels).cache =
      system.cache.applyAll (runOperations backend system labels) := by
  induction labels generalizing system with
  | nil => rfl
  | cons label labels inductionHypothesis =>
      rw [run, Machine.run_cons, inductionHypothesis, step_cache, runOperations,
        JwksCache.applyAll, Machine.run_append]

/-- The maps and lists of the shared cache belong together. -/
theorem run_consistent
    (backend : Backend)
    (minRefreshS : Int)
    (maxEntries : Nat)
    (labels : List Label) :
    (run backend (initial minRefreshS maxEntries) labels).cache.Consistent := by
  rw [run_cache]
  exact JwksCache.applyAll_consistent _ (JwksCache.create_consistent minRefreshS maxEntries)

end System
end Validator
end QuackOauth
