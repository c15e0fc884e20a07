import QuackOauth.Jwks.Key
import QuackOauth.Lib.LinkedList
import QuackOauth.Lib.Separator
import QuackOauth.Lib.UnorderedMap

/-!
# The JWKS cache

The process-wide cache of signing keys.  Hits live in a hash map with a recency
list beside it and misses in a second such pair.  A stored entry points to its own
node of the recency list.  All clocks are arguments.
-/

namespace QuackOauth
namespace Jwks

open Lib

/-- Outcome of a cache lookup. -/
inductive JwksLookupStatus
  | hit
  | miss
  | rateLimited
  deriving DecidableEq, Repr

/-- What a lookup reports: the keys on a hit, the wait when rate-limited. -/
structure JwksLookup where
  status : JwksLookupStatus := .miss
  keys : List Jwk := []
  retryAfterS : Int := 0

/-- A cached kid. -/
structure Entry where
  keys : List Jwk
  fetchedAtS : Int := 0
  lastRefreshAttemptS : Int := 0
  /-- The refresh this entry waits for; zero for none. -/
  currentReservationId : Nat := 0
  consecutiveAbsentCount : Nat := 0
  /-- Iterator into the recency list of the hits. -/
  lruIt : Nat

/-- A kid that a fetched document did not list. -/
structure MissEntry where
  recordedAtS : Int := 0
  /-- Iterator into the recency list of the misses. -/
  lruIt : Nat

/-- A refresh interval within its bounds, in seconds. -/
abbrev RefreshInterval := {seconds : Int // 1 ≤ seconds ∧ seconds ≤ 3600}

/-- Clamp a configured interval into the bounds. -/
def clampRefreshInterval (minRefreshS : Int) : RefreshInterval :=
  ⟨max 1 (min minRefreshS 3600), by omega⟩

/-- A positive entry limit. -/
abbrev EntryLimit := {limit : Nat // 0 < limit}

/-- A configured limit of zero means one. -/
def entryLimit (maxEntries : Nat) : EntryLimit :=
  ⟨if maxEntries = 0 then 1 else maxEntries, by split <;> omega⟩

/-- The cache.  Reservation ids are 64-bit in the source; they only count up. -/
structure JwksCache where
  minRefreshS : RefreshInterval
  maxEntries : EntryLimit
  lastGlobalFetchS : Int := 0
  lastSuccessfulFetchS : Int := 0
  lastSuccessfulFetchByUri : UnorderedMap String Int := ∅
  throttledRefreshes : Nat := 0
  throttledBudgetRefreshes : Nat := 0
  throttledPerKidRefreshes : Nat := 0
  lastThrottledAtS : Int := 0
  lastRefreshReason : String := ""
  nextReservationId : Nat := 1
  hitLru : LinkedList String := .empty
  missLru : LinkedList String := .empty
  hits : UnorderedMap String Entry := ∅
  misses : UnorderedMap String MissEntry := ∅

/-- The key of both maps.  Kids hold no newline, so the pair can be read back. -/
def cacheKey (jwksUri kid : String) : String :=
  if jwksUri = "" then kid else jwksUri ++ "\n" ++ kid

/-- Kids without a newline are told apart, and so are their issuers. -/
theorem cacheKey_inj
    {jwksUri₁ jwksUri₂ kid₁ kid₂ : String}
    (printable₁ : '\n' ∉ kid₁.toList)
    (printable₂ : '\n' ∉ kid₂.toList)
    (equal : cacheKey jwksUri₁ kid₁ = cacheKey jwksUri₂ kid₂) :
    jwksUri₁ = jwksUri₂ ∧ kid₁ = kid₂ := by
  have chars := congrArg String.toList equal
  unfold cacheKey at chars
  split at chars <;> split at chars
  · next none₁ none₂ =>
      exact ⟨none₁.trans none₂.symm, String.toList_injective chars⟩
  · rw [chars] at printable₁
    simp at printable₁
  · rw [← chars] at printable₂
    simp at printable₂
  · simp only [String.toList_append, List.append_assoc] at chars
    have cut := Separator.append_separator_inj_of_last printable₁ printable₂ chars
    exact ⟨String.toList_injective cut.1, String.toList_injective cut.2⟩

/-- For one issuer all kids are told apart. -/
theorem cacheKey_injective (jwksUri : String) : Function.Injective (cacheKey jwksUri) := by
  intro kid other equal
  have chars := congrArg String.toList equal
  unfold cacheKey at chars
  split at chars
  · exact String.toList_injective chars
  · simp only [String.toList_append] at chars
    exact String.toList_injective (List.append_cancel_left chars)

namespace JwksCache

/-- An empty cache. -/
def create (minRefreshS : Int) (maxEntries : Nat) : JwksCache where
  minRefreshS := clampRefreshInterval minRefreshS
  maxEntries := entryLimit maxEntries

/-- Change the interval of a running cache. -/
def setMinRefreshSeconds (minRefreshS : Int) (cache : JwksCache) : JwksCache :=
  { cache with minRefreshS := clampRefreshInterval minRefreshS }

/-- The hit stored for a kid of an issuer. -/
def findHit (cache : JwksCache) (jwksUri kid : String) : Option Entry :=
  cache.hits.lookup (cacheKey jwksUri kid)

/-- The miss stored for a kid of an issuer. -/
def findMiss (cache : JwksCache) (jwksUri kid : String) : Option MissEntry :=
  cache.misses.lookup (cacheKey jwksUri kid)

/-- Look up a kid. -/
def lookup
    (cache : JwksCache)
    (kid : String)
    (nowS : Int)
    (jwksUri : String) : JwksLookup :=
  match cache.findHit jwksUri kid with
  | some hit => { status := .hit, keys := hit.keys }
  | none =>
      match cache.findMiss jwksUri kid with
      | none => { status := .miss }
      | some miss =>
          match relateClock nowS miss.recordedAtS with
          | .forward =>
              let elapsed := nowS - miss.recordedAtS
              if elapsed < cache.minRefreshS.1 then
                { status := .rateLimited,
                  retryAfterS := cache.minRefreshS.1 - elapsed }
              else { status := .miss }
          | .minorRewind =>
              { status := .rateLimited, retryAfterS := cache.minRefreshS.1 }
          -- After a clock reset the miss counts as expired.
          | .reset => { status := .miss }

/-! ## Fetch bookkeeping -/

/-- Remember when a document of an issuer was last read. -/
def recordJwksFetchSuccess
    (nowS : Int)
    (jwksUri : String)
    (cache : JwksCache) : JwksCache :=
  if jwksUri ≠ "" then
    { cache with
      lastSuccessfulFetchByUri := cache.lastSuccessfulFetchByUri.insert jwksUri nowS }
  else
    { cache with lastSuccessfulFetchS := nowS }

/-- Whether the process-wide budget allows a fetch now. -/
def canFetchJwks (cache : JwksCache) (nowS : Int) : Bool :=
  if cache.lastGlobalFetchS ≤ 0 then true
  else
    let rel := relateClock nowS cache.lastGlobalFetchS
    if rel = .reset then true
    else if rel = .minorRewind ∨
        nowS - cache.lastGlobalFetchS < kGlobalFetchBudgetWindowSeconds then false
    else true

/-- Whether a document of the issuer was read within the last `windowS` seconds. -/
def hasFreshJwksDocument
    (cache : JwksCache)
    (nowS windowS : Int)
    (jwksUri : String) : Bool :=
  let lastS :=
    if jwksUri ≠ "" then (cache.lastSuccessfulFetchByUri.lookup jwksUri).getD 0
    else cache.lastSuccessfulFetchS
  if lastS ≤ 0 then false
  else if relateClock nowS lastS ≠ .forward then false
  else decide (nowS - lastS < windowS)

/-- Charge a fetch to the process-wide budget. -/
def recordJwksFetch (nowS : Int) (cache : JwksCache) : JwksCache :=
  if cache.lastGlobalFetchS > 0 ∧ relateClock nowS cache.lastGlobalFetchS = .reset then
    { cache with lastGlobalFetchS := nowS }
  else
    { cache with lastGlobalFetchS := max cache.lastGlobalFetchS nowS }

/-- Count a refresh that was not attempted. -/
def incrementThrottledRefreshes
    (isBudget : Bool)
    (nowS : Int)
    (cache : JwksCache) : JwksCache :=
  { cache with
    throttledRefreshes := cache.throttledRefreshes + 1
    throttledBudgetRefreshes :=
      if isBudget then cache.throttledBudgetRefreshes + 1
      else cache.throttledBudgetRefreshes
    throttledPerKidRefreshes :=
      if isBudget then cache.throttledPerKidRefreshes
      else cache.throttledPerKidRefreshes + 1
    lastThrottledAtS := if nowS > 0 then nowS else cache.lastThrottledAtS }

/-- Remember why the last refresh ended as it did. -/
def setLastRefreshReason (reason : String) (cache : JwksCache) : JwksCache :=
  { cache with lastRefreshReason := reason }

/-! ## Eviction -/

/-- Drop least recently used hits until the limit is met.  The loop ends at the
latest when the recency list is used up. -/
def evictHits
    (limit : Nat) :
    Nat → LinkedList String → UnorderedMap String Entry →
      LinkedList String × UnorderedMap String Entry
  | 0, lru, hits => (lru, hits)
  | fuel + 1, lru, hits =>
      if UnorderedMap.size hits > limit then
        match lru.back? with
        | none => (lru, hits)
        | some victim => evictHits limit fuel lru.popBack (hits.erase victim)
      else (lru, hits)

/-- Drop least recently used misses until the limit is met. -/
def evictMisses
    (limit : Nat) :
    Nat → LinkedList String → UnorderedMap String MissEntry →
      LinkedList String × UnorderedMap String MissEntry
  | 0, lru, misses => (lru, misses)
  | fuel + 1, lru, misses =>
      if UnorderedMap.size misses > limit then
        match lru.back? with
        | none => (lru, misses)
        | some victim => evictMisses limit fuel lru.popBack (misses.erase victim)
      else (lru, misses)

/-- Keep the first keys up to the limit per kid. -/
def trimToCap (keys : List Jwk) : List Jwk :=
  if keys.length > kMaxKeysPerKid then keys.take kMaxKeysPerKid else keys

/-- Forget a recorded miss. -/
def dropMiss (cacheKey : String) (cache : JwksCache) : JwksCache :=
  match cache.misses.lookup cacheKey with
  | none => cache
  | some miss =>
      { cache with
        missLru := cache.missLru.erase miss.lruIt
        misses := cache.misses.erase cacheKey }

/-! ## Ingesting documents -/

/-- Store the keys of a kid authoritatively. -/
def onFetchSuccess
    (kid : String)
    (keys : List Jwk)
    (nowS : Int)
    (jwksUri : String)
    (cache : JwksCache) : JwksCache :=
  if keys = [] then cache
  else
    let key := cacheKey jwksUri kid
    let cache := dropMiss key (recordJwksFetchSuccess nowS jwksUri cache)
    match cache.hits.lookup key with
    | some hit =>
        let lru := (cache.hitLru.erase hit.lruIt).pushFront key
        let hit := { hit with
          currentReservationId :=
            if sameKeyMaterialList hit.keys keys then hit.currentReservationId else 0
          keys := trimToCap keys
          fetchedAtS := max hit.fetchedAtS nowS
          consecutiveAbsentCount := 0
          lruIt := lru.begin }
        { cache with hitLru := lru, hits := cache.hits.insert key hit }
    | none =>
        let lru := cache.hitLru.pushFront key
        let entry : Entry := {
          keys := trimToCap keys
          fetchedAtS := nowS
          lastRefreshAttemptS := nowS
          currentReservationId := 0
          consecutiveAbsentCount := 0
          lruIt := lru.begin }
        let (lru, hits) := evictHits cache.maxEntries.1 lru.nodes.length lru
          (cache.hits.insert key entry)
        { cache with hitLru := lru, hits := hits }

/-- Append each key whose material is not there yet. -/
def unionKeys : List Jwk → List Jwk → List Jwk
  | existing, [] => existing
  | existing, key :: rest =>
      if holdsMaterial existing key then unionKeys existing rest
      else unionKeys (existing ++ [key]) rest

/-- Drop the oldest keys, in front, down to the limit per kid. -/
def dropOldest (keys : List Jwk) : List Jwk :=
  keys.drop (keys.length - kMaxKeysPerKid)

/-- Add the keys of a kid seen in passing; a pending reservation stays. -/
def onPassiveFetchSuccess
    (kid : String)
    (keys : List Jwk)
    (nowS : Int)
    (jwksUri : String)
    (cache : JwksCache) : JwksCache :=
  if keys = [] then cache
  else
    match cache.findHit jwksUri kid with
    | some hit =>
        let hit := { hit with
          keys := dropOldest (unionKeys hit.keys keys)
          consecutiveAbsentCount := 0 }
        { cache with hits := cache.hits.insert (cacheKey jwksUri kid) hit }
    | none => onFetchSuccess kid keys nowS jwksUri cache

/-- The kid of a stored key, if the key belongs to the issuer. -/
def kidOfCacheKey (jwksUri key : String) : Option String :=
  if jwksUri = "" then
    if '\n' ∈ key.toList then none else some key
  else
    let issuer := (jwksUri ++ "\n").toList
    if issuer.isPrefixOf key.toList then
      some (String.ofList (key.toList.drop issuer.length))
    else none

/-- What a document's set of kids says about a stored key: nothing for another
issuer or the excluded kid, else whether its kid is present. -/
def kidPresence
    (presentKids : List String)
    (jwksUri excludeKid key : String) : Option Bool :=
  match kidOfCacheKey jwksUri key with
  | none => none
  | some kid =>
      if excludeKid ≠ "" ∧ kid = excludeKid then none
      else some (decide (kid ∈ presentKids))

/-- The entry after its kid was looked for in a document. -/
def countAbsence (presence : Option Bool) (entry : Entry) : Entry :=
  match presence with
  | none => entry
  | some true => { entry with consecutiveAbsentCount := 0 }
  | some false =>
      { entry with consecutiveAbsentCount := entry.consecutiveAbsentCount + 1 }

/-- An entry, already counted, leaves on its second absence in a row. -/
def evictedForAbsence (presence : Option Bool) (entry : Entry) : Bool :=
  presence = some false && decide (entry.consecutiveAbsentCount ≥ 2)

/-- Count the absence of every cached kid of the issuer from a document. -/
def reconcileAbsentKids
    (presentKids : List String)
    (jwksUri excludeKid : String)
    (cache : JwksCache) : JwksCache :=
  let presence := kidPresence presentKids jwksUri excludeKid
  let counted := UnorderedMap.mapEntries
    (fun key entry => countAbsence (presence key) entry) cache.hits
  let toEvict := UnorderedMap.filter
    (fun key entry => evictedForAbsence (presence key) entry) counted
  { cache with
    hitLru := toEvict.entries.foldl
      (fun lru evicted => lru.erase evicted.2.lruIt) cache.hitLru
    hits := UnorderedMap.filter
      (fun key entry => !evictedForAbsence (presence key) entry) counted }

/-- A reserved refresh did not find its kid.  The flag reports an eviction. -/
def recordKidAbsent
    (kid : String)
    (reservationId : Nat)
    (nowS : Int)
    (jwksUri : String)
    (cache : JwksCache) : Bool × JwksCache :=
  match cache.findHit jwksUri kid with
  | none => (false, cache)
  | some hit =>
      if reservationId ≠ 0 ∧ hit.currentReservationId ≠ reservationId then
        (false, cache)
      else
        let key := cacheKey jwksUri kid
        let hit := { hit with
          currentReservationId := 0
          lastRefreshAttemptS := nowS
          consecutiveAbsentCount := hit.consecutiveAbsentCount + 1 }
        if hit.consecutiveAbsentCount ≥ 2 then
          (true, { cache with
            hitLru := cache.hitLru.erase hit.lruIt
            hits := cache.hits.erase key })
        else
          (false, { cache with hits := cache.hits.insert key hit })

/-- A cold fetch did not find its kid: start the kid's cooldown. -/
def onFetchMiss
    (kid : String)
    (nowS : Int)
    (jwksUri : String)
    (cache : JwksCache) : JwksCache :=
  let key := cacheKey jwksUri kid
  let cache := dropMiss key cache
  let lru := cache.missLru.pushFront key
  let (lru, misses) := evictMisses cache.maxEntries.1 lru.nodes.length lru
    (cache.misses.insert key { recordedAtS := nowS, lruIt := lru.begin })
  { cache with missLru := lru, misses := misses }

/-! ## Reserved refreshes -/

/-- Hand out the next reservation for a stored entry. -/
def grantReservation
    (key : String)
    (hit : Entry)
    (nowS : Int)
    (cache : JwksCache) : Nat × JwksCache :=
  (cache.nextReservationId,
    { cache with
      nextReservationId := cache.nextReservationId + 1
      hits := cache.hits.insert key { hit with
        lastRefreshAttemptS := nowS
        currentReservationId := cache.nextReservationId } })

/-- Reserve a refresh of a cached kid; zero when it is rate-limited. -/
def tryReserveRefresh
    (kid : String)
    (nowS : Int)
    (jwksUri : String)
    (cache : JwksCache) : Nat × JwksCache :=
  match cache.findHit jwksUri kid with
  | none => (0, cache)
  | some hit =>
      match relateClock nowS hit.lastRefreshAttemptS with
      | .reset => grantReservation (cacheKey jwksUri kid) hit nowS cache
      | .minorRewind => (0, cache)
      | .forward =>
          if nowS - hit.lastRefreshAttemptS < cache.minRefreshS.1 then (0, cache)
          else grantReservation (cacheKey jwksUri kid) hit nowS cache

/-- Replace the keys of a kid on behalf of its reservation. -/
def commitRefresh
    (kid : String)
    (reservationId : Nat)
    (keys : List Jwk)
    (nowS : Int)
    (jwksUri : String)
    (cache : JwksCache) : Bool × JwksCache :=
  if reservationId = 0 ∨ keys = [] then (false, cache)
  else
    match cache.findHit jwksUri kid with
    | none => (false, cache)
    | some hit =>
        if hit.currentReservationId ≠ reservationId then (false, cache)
        else if relateClock nowS hit.fetchedAtS = .minorRewind then (false, cache)
        else
          let key := cacheKey jwksUri kid
          let lru := (cache.hitLru.erase hit.lruIt).pushFront key
          let hit := { hit with
            currentReservationId := 0
            consecutiveAbsentCount := 0
            keys := trimToCap keys
            fetchedAtS := nowS
            lruIt := lru.begin }
          (true, { cache with hitLru := lru, hits := cache.hits.insert key hit })

/-- Number of cached kids. -/
def size (cache : JwksCache) : Nat :=
  UnorderedMap.size cache.hits

/-- Number of recorded misses. -/
def missSize (cache : JwksCache) : Nat :=
  UnorderedMap.size cache.misses

end JwksCache
end Jwks
end QuackOauth
