import QuackOauth.Jwks.Evolution
import QuackOauth.Lib.Lru
import QuackOauth.Lib.Machine

/-!
# The cache, operation by operation

The operations that change the cache as labels of a machine, and the pointwise
reading of each: what it leaves of the entry and of the miss stored under one key,
and which key it costs when a new one has no room.
-/

namespace QuackOauth
namespace Jwks

open Lib

/-- A call of one of the operations that change the cache. -/
inductive Operation
  | tryReserveRefresh (kid : String) (nowS : Int) (jwksUri : String)
  | commitRefresh
      (kid : String) (reservationId : Nat) (keys : List Jwk) (nowS : Int)
      (jwksUri : String)
  | recordKidAbsent
      (kid : String) (reservationId : Nat) (nowS : Int) (jwksUri : String)
  | reconcileAbsentKids (presentKids : List String) (jwksUri excludeKid : String)
  | onFetchSuccess (kid : String) (keys : List Jwk) (nowS : Int) (jwksUri : String)
  | onPassiveFetchSuccess
      (kid : String) (keys : List Jwk) (nowS : Int) (jwksUri : String)
  | onFetchMiss (kid : String) (nowS : Int) (jwksUri : String)
  | recordJwksFetch (nowS : Int)
  | recordJwksFetchSuccess (nowS : Int) (jwksUri : String)
  | incrementThrottledRefreshes (isBudget : Bool) (nowS : Int)
  | setLastRefreshReason (reason : String)
  deriving DecidableEq

/-- The kid an operation is about. -/
def Operation.kid? : Operation → Option String
  | .tryReserveRefresh kid _ _ => some kid
  | .commitRefresh kid _ _ _ _ => some kid
  | .recordKidAbsent kid _ _ _ => some kid
  | .onFetchSuccess kid _ _ _ => some kid
  | .onPassiveFetchSuccess kid _ _ _ => some kid
  | .onFetchMiss kid _ _ => some kid
  | _ => none

/-- The issuer an operation is about. -/
def Operation.jwksUri? : Operation → Option String
  | .tryReserveRefresh _ _ jwksUri => some jwksUri
  | .commitRefresh _ _ _ _ jwksUri => some jwksUri
  | .recordKidAbsent _ _ _ jwksUri => some jwksUri
  | .reconcileAbsentKids _ jwksUri _ => some jwksUri
  | .onFetchSuccess _ _ _ jwksUri => some jwksUri
  | .onPassiveFetchSuccess _ _ _ jwksUri => some jwksUri
  | .onFetchMiss _ _ jwksUri => some jwksUri
  | .recordJwksFetchSuccess _ jwksUri => some jwksUri
  | _ => none

/-- The time at which an operation on the entries takes place. -/
def Operation.nowS? : Operation → Option Int
  | .tryReserveRefresh _ nowS _ => some nowS
  | .commitRefresh _ _ _ nowS _ => some nowS
  | .recordKidAbsent _ _ nowS _ => some nowS
  | .onFetchSuccess _ _ nowS _ => some nowS
  | .onPassiveFetchSuccess _ _ nowS _ => some nowS
  | .onFetchMiss _ nowS _ => some nowS
  | _ => none

/-- An operation names no kid with a newline. -/
def Operation.Printable (operation : Operation) : Prop :=
  ∀ kid ∈ operation.kid?, '\n' ∉ kid.toList

namespace JwksCache

/-- Carry out an operation. -/
def apply (cache : JwksCache) : Operation → JwksCache
  | .tryReserveRefresh kid nowS jwksUri =>
      (cache.tryReserveRefresh kid nowS jwksUri).2
  | .commitRefresh kid reservationId keys nowS jwksUri =>
      (cache.commitRefresh kid reservationId keys nowS jwksUri).2
  | .recordKidAbsent kid reservationId nowS jwksUri =>
      (cache.recordKidAbsent kid reservationId nowS jwksUri).2
  | .reconcileAbsentKids presentKids jwksUri excludeKid =>
      cache.reconcileAbsentKids presentKids jwksUri excludeKid
  | .onFetchSuccess kid keys nowS jwksUri => cache.onFetchSuccess kid keys nowS jwksUri
  | .onPassiveFetchSuccess kid keys nowS jwksUri =>
      cache.onPassiveFetchSuccess kid keys nowS jwksUri
  | .onFetchMiss kid nowS jwksUri => cache.onFetchMiss kid nowS jwksUri
  | .recordJwksFetch nowS => cache.recordJwksFetch nowS
  | .recordJwksFetchSuccess nowS jwksUri => cache.recordJwksFetchSuccess nowS jwksUri
  | .incrementThrottledRefreshes isBudget nowS =>
      cache.incrementThrottledRefreshes isBudget nowS
  | .setLastRefreshReason reason => cache.setLastRefreshReason reason

/-- The cache after a list of operations. -/
abbrev applyAll : JwksCache → List Operation → JwksCache :=
  Machine.run apply

/-! ## Kids read back from keys -/

/-- The kid of a key is read back for its own issuer. -/
theorem kidOfCacheKey_cacheKey
    {kid : String}
    (jwksUri : String)
    (printable : '\n' ∉ kid.toList) :
    kidOfCacheKey jwksUri (cacheKey jwksUri kid) = some kid := by
  unfold kidOfCacheKey cacheKey
  by_cases noIssuer : jwksUri = ""
  · simp only [if_pos noIssuer, if_neg printable]
  · simp only [if_neg noIssuer, String.toList_append]
    rw [if_pos (by simp), List.drop_left, String.ofList_toList]

/-- The kid of a key is read back for no other issuer. -/
theorem kidOfCacheKey_eq_none
    {jwksUri other kid : String}
    (isOther : other ≠ jwksUri)
    (printableUri : '\n' ∉ jwksUri.toList)
    (printableOther : '\n' ∉ other.toList)
    (printable : '\n' ∉ kid.toList) :
    kidOfCacheKey jwksUri (cacheKey other kid) = none := by
  unfold kidOfCacheKey cacheKey
  by_cases noIssuer : jwksUri = ""
  · rw [noIssuer] at isOther
    simp [noIssuer, isOther]
  · rw [if_neg noIssuer]
    apply if_neg
    intro isIssuer
    obtain ⟨rest, equal⟩ := List.isPrefixOf_iff_prefix.mp isIssuer
    by_cases noOther : other = ""
    · -- The kid alone holds no separator.
      rw [if_pos noOther] at equal
      rw [← equal] at printable
      simp at printable
    · rw [if_neg noOther] at equal
      simp only [String.toList_append, List.append_assoc] at equal
      have cut := Separator.append_separator_inj_of_first printableUri printableOther equal
      exact isOther (String.toList_injective cut.1).symm

/-! ## The recency lists -/

theorem evictHits_eq : evictHits = @Lru.evict String Entry _ := by
  funext limit fuel
  induction fuel with
  | zero => rfl
  | succ fuel inductionHypothesis =>
      funext lru hits
      rw [evictHits, Lru.evict, inductionHypothesis]
      cases lru.back? <;> rfl

theorem evictMisses_eq :
    evictMisses = @Lru.evict String MissEntry _ := by
  funext limit fuel
  induction fuel with
  | zero => rfl
  | succ fuel inductionHypothesis =>
      funext lru misses
      rw [evictMisses, Lru.evict, inductionHypothesis]
      cases lru.back? <;> rfl

/-- Each map and its recency list belong together, and both maps are within the
limit. -/
structure Consistent (cache : JwksCache) : Prop where
  hits : Lru.Indexed Entry.lruIt cache.hitLru cache.hits
  hits_le : UnorderedMap.size cache.hits ≤ cache.maxEntries.1
  misses : Lru.Indexed MissEntry.lruIt cache.missLru cache.misses
  misses_le : UnorderedMap.size cache.misses ≤ cache.maxEntries.1

/-- The kid that is dropped if a new one is cached now. -/
def hitVictim (cache : JwksCache) : Option String :=
  Lru.victim cache.maxEntries.1 cache.hitLru cache.hits

/-- The miss that is dropped if a new one is recorded now. -/
def missVictim (cache : JwksCache) : Option String :=
  Lru.victim cache.maxEntries.1 cache.missLru cache.misses

/-- The kid whose entry an operation drops for lack of room. -/
def droppedHit (cache : JwksCache) : Operation → Option String
  | .onFetchSuccess kid keys _ jwksUri =>
      if keys = [] ∨ (cache.findHit jwksUri kid).isSome then none else cache.hitVictim
  | .onPassiveFetchSuccess kid keys _ jwksUri =>
      if keys = [] ∨ (cache.findHit jwksUri kid).isSome then none else cache.hitVictim
  | _ => none

/-- The kid whose miss an operation drops for lack of room. -/
def droppedMiss (cache : JwksCache) : Operation → Option String
  | .onFetchMiss kid _ jwksUri =>
      if (cache.findMiss jwksUri kid).isSome then none else cache.missVictim
  | _ => none

/-- An operation stores a new kid although all entries are taken. -/
def Overflows (cache : JwksCache) : Operation → Prop
  | .onFetchSuccess kid keys _ jwksUri =>
      keys ≠ [] ∧ cache.findHit jwksUri kid = none ∧
        cache.maxEntries.1 ≤ UnorderedMap.size cache.hits
  | .onPassiveFetchSuccess kid keys _ jwksUri =>
      keys ≠ [] ∧ cache.findHit jwksUri kid = none ∧
        cache.maxEntries.1 ≤ UnorderedMap.size cache.hits
  | _ => False

instance (cache : JwksCache) : ∀ operation, Decidable (Overflows cache operation)
  | .onFetchSuccess _ _ _ _ => inferInstanceAs (Decidable (_ ∧ _ ∧ _))
  | .onPassiveFetchSuccess _ _ _ _ => inferInstanceAs (Decidable (_ ∧ _ ∧ _))
  | .tryReserveRefresh _ _ _ => inferInstanceAs (Decidable False)
  | .commitRefresh _ _ _ _ _ => inferInstanceAs (Decidable False)
  | .recordKidAbsent _ _ _ _ => inferInstanceAs (Decidable False)
  | .reconcileAbsentKids _ _ _ => inferInstanceAs (Decidable False)
  | .onFetchMiss _ _ _ => inferInstanceAs (Decidable False)
  | .recordJwksFetch _ => inferInstanceAs (Decidable False)
  | .recordJwksFetchSuccess _ _ => inferInstanceAs (Decidable False)
  | .incrementThrottledRefreshes _ _ => inferInstanceAs (Decidable False)
  | .setLastRefreshReason _ => inferInstanceAs (Decidable False)

/-- There is room for every kid that a list of operations stores. -/
def Fits : JwksCache → List Operation → Prop :=
  Machine.AllSteps apply fun cache operation => ¬Overflows cache operation

instance (cache : JwksCache) (operations : List Operation) :
    Decidable (Fits cache operations) :=
  inferInstanceAs (Decidable (Machine.AllSteps _ _ _ _))

/-- Nothing is dropped while there is room. -/
theorem droppedHit_of_not_overflows
    {cache : JwksCache}
    {operation : Operation}
    (fits : ¬Overflows cache operation) :
    droppedHit cache operation = none := by
  have keeps : ∀ (kid : String) (keys : List Jwk) (jwksUri : String),
      ¬(keys ≠ [] ∧ cache.findHit jwksUri kid = none ∧
        cache.maxEntries.1 ≤ UnorderedMap.size cache.hits) →
      (if keys = [] ∨ (cache.findHit jwksUri kid).isSome = true then none
        else cache.hitVictim) = none := by
    intro kid keys jwksUri fits
    split
    · rfl
    · next isNew =>
        rw [not_or, Option.not_isSome_iff_eq_none] at isNew
        rw [hitVictim, Lru.victim, if_pos]
        by_contra full
        exact fits ⟨isNew.1, isNew.2, Nat.le_of_not_lt full⟩
  cases operation with
  | onFetchSuccess kid keys nowS jwksUri => exact keeps kid keys jwksUri fits
  | onPassiveFetchSuccess kid keys nowS jwksUri => exact keeps kid keys jwksUri fits
  | _ => rfl

/-! ## One key at a time -/

/-- Whether the refresh of an entry is due. -/
def refreshDue (interval : RefreshInterval) (nowS : Int) (hit : Entry) : Bool :=
  match relateClock nowS hit.lastRefreshAttemptS with
  | .reset => true
  | .minorRewind => false
  | .forward => decide (interval.1 ≤ nowS - hit.lastRefreshAttemptS)

/-- Whether an entry takes the keys of a refresh. -/
def acceptsCommit
    (reservationId : Nat)
    (keys : List Jwk)
    (nowS : Int)
    (hit : Entry) : Bool :=
  reservationId ≠ 0 && keys ≠ [] && hit.currentReservationId = reservationId &&
    relateClock nowS hit.fetchedAtS ≠ .minorRewind

/-- Whether an absence is counted for an entry. -/
def countsAbsence (reservationId : Nat) (hit : Entry) : Bool :=
  reservationId = 0 || hit.currentReservationId = reservationId

/-- The entry of a kid that is cached for the first time. -/
def newEntry (cache : JwksCache) (keys : List Jwk) (nowS : Int) : Entry where
  keys := trimToCap keys
  fetchedAtS := nowS
  lastRefreshAttemptS := nowS
  lruIt := cache.hitLru.nextNode

/-- The entry of a kid whose keys are replaced. -/
def storedEntry
    (cache : JwksCache)
    (keys : List Jwk)
    (nowS : Int) : Option Entry → Entry
  | none => newEntry cache keys nowS
  | some hit => { hit with
      currentReservationId :=
        if sameKeyMaterialList hit.keys keys then hit.currentReservationId else 0
      keys := trimToCap keys
      fetchedAtS := max hit.fetchedAtS nowS
      consecutiveAbsentCount := 0
      lruIt := cache.hitLru.nextNode }

/-- The entry of a kid to which keys are added. -/
def extendedEntry
    (cache : JwksCache)
    (keys : List Jwk)
    (nowS : Int) : Option Entry → Entry
  | none => newEntry cache keys nowS
  | some hit => { hit with
      keys := dropOldest (unionKeys hit.keys keys)
      consecutiveAbsentCount := 0 }

/-- What an operation leaves of the entry under a key, room permitting. -/
def entryAfter
    (cache : JwksCache)
    (key : String)
    (stored : Option Entry) : Operation → Option Entry
  | .tryReserveRefresh kid nowS jwksUri =>
      if key = cacheKey jwksUri kid then
        stored.map fun hit =>
          if refreshDue cache.minRefreshS nowS hit then
            { hit with
              lastRefreshAttemptS := nowS
              currentReservationId := cache.nextReservationId }
          else hit
      else stored
  | .commitRefresh kid reservationId keys nowS jwksUri =>
      if key = cacheKey jwksUri kid then
        stored.map fun hit =>
          if acceptsCommit reservationId keys nowS hit then
            { hit with
              currentReservationId := 0
              consecutiveAbsentCount := 0
              keys := trimToCap keys
              fetchedAtS := nowS
              lruIt := cache.hitLru.nextNode }
          else hit
      else stored
  | .recordKidAbsent kid reservationId nowS jwksUri =>
      if key = cacheKey jwksUri kid then
        stored.bind fun hit =>
          if countsAbsence reservationId hit then
            if hit.consecutiveAbsentCount = 0 then
              some { hit with
                currentReservationId := 0
                lastRefreshAttemptS := nowS
                consecutiveAbsentCount := 1 }
            else none
          else some hit
      else stored
  | .reconcileAbsentKids presentKids jwksUri excludeKid =>
      (stored.map (countAbsence (kidPresence presentKids jwksUri excludeKid key))).filter
        fun hit => !evictedForAbsence (kidPresence presentKids jwksUri excludeKid key) hit
  | .onFetchSuccess kid keys nowS jwksUri =>
      if key = cacheKey jwksUri kid ∧ keys ≠ [] then
        some (storedEntry cache keys nowS stored)
      else stored
  | .onPassiveFetchSuccess kid keys nowS jwksUri =>
      if key = cacheKey jwksUri kid ∧ keys ≠ [] then
        some (extendedEntry cache keys nowS stored)
      else stored
  | _ => stored

/-- How an entry comes out of an operation, room permitting. -/
inductive Successor (cache : JwksCache) (key : String) :
    Operation → Option Entry → Entry → Prop
  | untouched
      (operation : Operation)
      (hit : Entry) :
      Successor cache key operation (some hit) hit
  | reserved
      {kid jwksUri : String}
      {nowS : Int}
      {hit : Entry}
      (isKey : key = cacheKey jwksUri kid)
      (isDue : refreshDue cache.minRefreshS nowS hit = true) :
      Successor cache key (.tryReserveRefresh kid nowS jwksUri) (some hit)
        { hit with
          lastRefreshAttemptS := nowS
          currentReservationId := cache.nextReservationId }
  | committed
      {kid jwksUri : String}
      {reservationId : Nat}
      {keys : List Jwk}
      {nowS : Int}
      {hit : Entry}
      (isKey : key = cacheKey jwksUri kid)
      (accepts : acceptsCommit reservationId keys nowS hit = true) :
      Successor cache key (.commitRefresh kid reservationId keys nowS jwksUri) (some hit)
        { hit with
          currentReservationId := 0
          consecutiveAbsentCount := 0
          keys := trimToCap keys
          fetchedAtS := nowS
          lruIt := cache.hitLru.nextNode }
  | marked
      {kid jwksUri : String}
      {reservationId : Nat}
      {nowS : Int}
      {hit : Entry}
      (isKey : key = cacheKey jwksUri kid)
      (counts : countsAbsence reservationId hit = true) :
      Successor cache key (.recordKidAbsent kid reservationId nowS jwksUri) (some hit)
        { hit with
          currentReservationId := 0
          lastRefreshAttemptS := nowS
          consecutiveAbsentCount := 1 }
  | reconciled
      (presentKids : List String)
      (jwksUri excludeKid : String)
      (hit : Entry) :
      Successor cache key (.reconcileAbsentKids presentKids jwksUri excludeKid) (some hit)
        (countAbsence (kidPresence presentKids jwksUri excludeKid key) hit)
  | stored
      {kid jwksUri : String}
      {keys : List Jwk}
      {nowS : Int}
      {previous : Option Entry}
      (isKey : key = cacheKey jwksUri kid)
      (nonempty : keys ≠ []) :
      Successor cache key (.onFetchSuccess kid keys nowS jwksUri) previous
        (storedEntry cache keys nowS previous)
  | extended
      {kid jwksUri : String}
      {keys : List Jwk}
      {nowS : Int}
      {previous : Option Entry}
      (isKey : key = cacheKey jwksUri kid)
      (nonempty : keys ≠ []) :
      Successor cache key (.onPassiveFetchSuccess kid keys nowS jwksUri) previous
        (extendedEntry cache keys nowS previous)

/-- Whether an operation evicts the entry under a key because its kid is absent. -/
def evictsAbsent
    (cache : JwksCache)
    (key : String)
    (operation : Operation) : Bool :=
  match cache.hits.lookup key, operation with
  | some hit, .recordKidAbsent kid reservationId _ jwksUri =>
      key = cacheKey jwksUri kid && countsAbsence reservationId hit &&
        hit.consecutiveAbsentCount ≠ 0
  | some hit, .reconcileAbsentKids presentKids jwksUri excludeKid =>
      kidPresence presentKids jwksUri excludeKid key = some false &&
        hit.consecutiveAbsentCount ≠ 0
  | _, _ => false

/-- What an operation leaves of the miss under a key, room permitting. -/
def missAfter
    (cache : JwksCache)
    (key : String)
    (stored : Option MissEntry) : Operation → Option MissEntry
  | .onFetchSuccess kid keys _ jwksUri =>
      if key = cacheKey jwksUri kid ∧ keys ≠ [] then none else stored
  | .onPassiveFetchSuccess kid keys _ jwksUri =>
      if key = cacheKey jwksUri kid ∧ keys ≠ [] ∧ cache.findHit jwksUri kid = none then
        none
      else stored
  | .onFetchMiss kid nowS jwksUri =>
      if key = cacheKey jwksUri kid then
        some { recordedAtS := nowS, lruIt := cache.missLru.nextNode }
      else stored
  | _ => stored

/-! ## What each operation does -/

variable {cache : JwksCache} {key : String} {stored : Option Entry}

@[simp] theorem hitLru_recordJwksFetchSuccess
    (nowS : Int)
    (jwksUri : String)
    (cache : JwksCache) :
    (recordJwksFetchSuccess nowS jwksUri cache).hitLru = cache.hitLru := by
  unfold recordJwksFetchSuccess
  split <;> rfl

@[simp] theorem missLru_recordJwksFetchSuccess
    (nowS : Int)
    (jwksUri : String)
    (cache : JwksCache) :
    (recordJwksFetchSuccess nowS jwksUri cache).missLru = cache.missLru := by
  unfold recordJwksFetchSuccess
  split <;> rfl

@[simp] theorem misses_recordJwksFetchSuccess
    (nowS : Int)
    (jwksUri : String)
    (cache : JwksCache) :
    (recordJwksFetchSuccess nowS jwksUri cache).misses = cache.misses := by
  unfold recordJwksFetchSuccess
  split <;> rfl

@[simp] theorem minRefreshS_recordJwksFetchSuccess
    (nowS : Int)
    (jwksUri : String)
    (cache : JwksCache) :
    (recordJwksFetchSuccess nowS jwksUri cache).minRefreshS = cache.minRefreshS := by
  unfold recordJwksFetchSuccess
  split <;> rfl

@[simp] theorem maxEntries_recordJwksFetchSuccess
    (nowS : Int)
    (jwksUri : String)
    (cache : JwksCache) :
    (recordJwksFetchSuccess nowS jwksUri cache).maxEntries = cache.maxEntries := by
  unfold recordJwksFetchSuccess
  split <;> rfl

@[simp] theorem hitLru_dropMiss (key : String) (cache : JwksCache) :
    (dropMiss key cache).hitLru = cache.hitLru := by
  unfold dropMiss
  split <;> rfl

@[simp] theorem maxEntries_dropMiss (key : String) (cache : JwksCache) :
    (dropMiss key cache).maxEntries = cache.maxEntries := by
  unfold dropMiss
  split <;> rfl

@[simp] theorem minRefreshS_dropMiss (key : String) (cache : JwksCache) :
    (dropMiss key cache).minRefreshS = cache.minRefreshS := by
  unfold dropMiss
  split <;> rfl

@[simp] theorem nextNode_missLru_dropMiss (key : String) (cache : JwksCache) :
    (dropMiss key cache).missLru.nextNode = cache.missLru.nextNode := by
  unfold dropMiss
  split <;> rfl

theorem lookup_misses_dropMiss (key other : String) (cache : JwksCache) :
    (dropMiss key cache).misses.lookup other =
      if other = key then none else cache.misses.lookup other := by
  unfold dropMiss
  split
  · next absent =>
      split
      · next sameKey => rw [sameKey, absent]
      · rfl
  · exact UnorderedMap.lookup_erase_eq_ite key other cache.misses

theorem dropMiss_indexed
    (key : String)
    (indexed : Lru.Indexed MissEntry.lruIt cache.missLru cache.misses) :
    Lru.Indexed MissEntry.lruIt (dropMiss key cache).missLru
      (dropMiss key cache).misses := by
  unfold dropMiss
  split
  · exact indexed
  · next found => exact indexed.erase found

theorem size_misses_dropMiss_le (key : String) (cache : JwksCache) :
    UnorderedMap.size (dropMiss key cache).misses ≤ UnorderedMap.size cache.misses := by
  unfold dropMiss
  split
  · exact le_refl _
  · exact UnorderedMap.size_erase_le cache.misses key

/-- What an operation does to a cache. -/
structure Applied
    (cache : JwksCache)
    (operation : Operation)
    (after : JwksCache) : Prop where
  minRefreshS_eq : after.minRefreshS = cache.minRefreshS
  maxEntries_eq : after.maxEntries = cache.maxEntries
  consistent : Consistent after
  lookup_hits : ∀ key, after.hits.lookup key =
    if droppedHit cache operation = some key then none
    else entryAfter cache key (cache.hits.lookup key) operation
  lookup_misses : ∀ key, after.misses.lookup key =
    if droppedMiss cache operation = some key then none
    else missAfter cache key (cache.misses.lookup key) operation

/-- Whatever an operation leaves came out of it in one of these ways. -/
theorem successor_of_entryAfter
    {operation : Operation}
    {next : Entry}
    (after : entryAfter cache key stored operation = some next) :
    Successor cache key operation stored next := by
  have untouched : stored = some next → Successor cache key operation stored next := by
    rintro rfl
    exact .untouched operation next
  cases operation with
  | tryReserveRefresh kid nowS jwksUri =>
      rw [entryAfter] at after
      split at after
      · next isKey =>
          obtain ⟨hit, rfl, changed⟩ := Option.map_eq_some_iff.mp after
          split at changed
          · next isDue =>
              subst changed
              exact .reserved isKey isDue
          · exact untouched (congrArg some changed)
      · exact untouched after
  | commitRefresh kid reservationId keys nowS jwksUri =>
      rw [entryAfter] at after
      split at after
      · next isKey =>
          obtain ⟨hit, rfl, changed⟩ := Option.map_eq_some_iff.mp after
          split at changed
          · next accepts =>
              subst changed
              exact .committed isKey accepts
          · exact untouched (congrArg some changed)
      · exact untouched after
  | recordKidAbsent kid reservationId nowS jwksUri =>
      rw [entryAfter] at after
      split at after
      · next isKey =>
          obtain ⟨hit, rfl, changed⟩ := Option.bind_eq_some_iff.mp after
          split at changed
          · next counts =>
              obtain ⟨-, marked⟩ := Option.ite_none_right_eq_some.mp changed
              obtain rfl := Option.some.inj marked
              exact .marked isKey counts
          · exact untouched changed
      · exact untouched after
  | reconcileAbsentKids presentKids jwksUri excludeKid =>
      obtain ⟨counted, -⟩ := Option.filter_eq_some_iff.mp after
      obtain ⟨hit, rfl, rfl⟩ := Option.map_eq_some_iff.mp counted
      exact .reconciled presentKids jwksUri excludeKid hit
  | onFetchSuccess kid keys nowS jwksUri =>
      rw [entryAfter] at after
      split at after
      · next ingested =>
          obtain rfl := Option.some.inj after
          exact .stored ingested.1 ingested.2
      · exact untouched after
  | onPassiveFetchSuccess kid keys nowS jwksUri =>
      rw [entryAfter] at after
      split at after
      · next ingested =>
          obtain rfl := Option.some.inj after
          exact .extended ingested.1 ingested.2
      · exact untouched after
  | _ => exact untouched after

/-- An entry is lost to its kid's absence only, room permitting. -/
theorem entryAfter_isSome
    {hit : Entry}
    (operation : Operation)
    (found : cache.hits.lookup key = some hit) :
    (entryAfter cache key (some hit) operation).isSome =
      !evictsAbsent cache key operation := by
  unfold evictsAbsent
  rw [found]
  cases operation with
  | tryReserveRefresh =>
      rw [entryAfter]
      split <;> rfl
  | commitRefresh =>
      rw [entryAfter]
      split <;> rfl
  | recordKidAbsent kid reservationId nowS jwksUri =>
      rw [entryAfter]
      split
      · next isKey =>
          rw [Option.bind_some]
          split
          · next counts =>
              split
              · next first => simp [first]
              · next again => simp [isKey, counts, again]
          · next ignored => simp [ignored]
      · next isOther => simp [isOther]
  | reconcileAbsentKids presentKids jwksUri excludeKid =>
      rw [entryAfter, Option.map_some, Option.filter_some]
      dsimp only
      generalize kidPresence presentKids jwksUri excludeKid key = presence
      cases presence with
      | none => rfl
      | some isPresent =>
          cases isPresent with
          | true => rfl
          | false =>
              simp only [countAbsence, evictedForAbsence]
              by_cases first : hit.consecutiveAbsentCount = 0
              · simp [first]
              · have again : 2 ≤ hit.consecutiveAbsentCount + 1 := by omega
                simp [first, again]
  | onFetchSuccess =>
      rw [entryAfter]
      split <;> rfl
  | onPassiveFetchSuccess =>
      rw [entryAfter]
      split <;> rfl
  | _ => rfl

/-- An operation that leaves both maps alone. -/
theorem applied_of_maps_eq
    {operation : Operation}
    {after : JwksCache}
    (consistent : Consistent cache)
    (minRefreshS_eq : after.minRefreshS = cache.minRefreshS)
    (maxEntries_eq : after.maxEntries = cache.maxEntries)
    (hitLru_eq : after.hitLru = cache.hitLru)
    (hits_eq : after.hits = cache.hits)
    (missLru_eq : after.missLru = cache.missLru)
    (misses_eq : after.misses = cache.misses)
    (dropsHit : droppedHit cache operation = none)
    (dropsMiss : droppedMiss cache operation = none)
    (entry_eq : ∀ key, entryAfter cache key (cache.hits.lookup key) operation =
      cache.hits.lookup key)
    (miss_eq : ∀ key, missAfter cache key (cache.misses.lookup key) operation =
      cache.misses.lookup key) :
    Applied cache operation after where
  minRefreshS_eq := minRefreshS_eq
  maxEntries_eq := maxEntries_eq
  consistent := by
    obtain ⟨hits, hits_le, misses, misses_le⟩ := consistent
    rw [← hitLru_eq, ← hits_eq] at hits
    rw [← hits_eq, ← maxEntries_eq] at hits_le
    rw [← missLru_eq, ← misses_eq] at misses
    rw [← misses_eq, ← maxEntries_eq] at misses_le
    exact ⟨hits, hits_le, misses, misses_le⟩
  lookup_hits := fun key => by simp [dropsHit, hits_eq, entry_eq]
  lookup_misses := fun key => by simp [dropsMiss, misses_eq, miss_eq]

/-- An operation that changes the hits only, and needs no room. -/
theorem applied_of_hits
    {operation : Operation}
    {lru : LinkedList String}
    {hits : UnorderedMap String Entry}
    {next : Nat}
    (consistent : Consistent cache)
    (indexed : Lru.Indexed Entry.lruIt lru hits)
    (within : UnorderedMap.size hits ≤ cache.maxEntries.1)
    (dropsHit : droppedHit cache operation = none)
    (dropsMiss : droppedMiss cache operation = none)
    (entry_eq : ∀ key, hits.lookup key =
      entryAfter cache key (cache.hits.lookup key) operation)
    (miss_eq : ∀ key, missAfter cache key (cache.misses.lookup key) operation =
      cache.misses.lookup key) :
    Applied cache operation
      { cache with nextReservationId := next, hitLru := lru, hits := hits } where
  minRefreshS_eq := rfl
  maxEntries_eq := rfl
  consistent := ⟨indexed, within, consistent.misses, consistent.misses_le⟩
  lookup_hits := fun key => by simp [dropsHit, entry_eq]
  lookup_misses := fun key => by simp [dropsMiss, miss_eq]

theorem size_insert_of_stored
    {Value : Type*}
    {map : UnorderedMap String Value}
    {old : Value}
    (found : map.lookup key = some old)
    (value : Value) :
    UnorderedMap.size (map.insert key value) = UnorderedMap.size map := by
  have member : key ∈ map := AList.lookup_isSome.mp (by rw [found]; rfl)
  rw [UnorderedMap.size_eq_length_keys, UnorderedMap.size_eq_length_keys,
    AList.keys_insert, List.length_cons,
    List.length_erase_of_mem (AList.mem_keys.mp member)]
  have positive := List.length_pos_of_mem (AList.mem_keys.mp member)
  omega

section OneKid

variable {operation : Operation} {kid jwksUri : String} {change : Entry → Option Entry}

/-- An operation on one kid that keeps its entry. -/
theorem applied_of_kept
    (consistent : Consistent cache)
    (dropsHit : droppedHit cache operation = none)
    (dropsMiss : droppedMiss cache operation = none)
    (after : ∀ key stored, entryAfter cache key stored operation =
      if key = cacheKey jwksUri kid then stored.bind change else stored)
    (miss_eq : ∀ key, missAfter cache key (cache.misses.lookup key) operation =
      cache.misses.lookup key)
    (keeps : ∀ hit, cache.findHit jwksUri kid = some hit → change hit = some hit) :
    Applied cache operation cache := by
  refine applied_of_maps_eq consistent rfl rfl rfl rfl rfl rfl dropsHit dropsMiss ?_ miss_eq
  intro key
  rw [after]
  split
  · next isKey =>
      subst isKey
      cases found : cache.hits.lookup (cacheKey jwksUri kid) with
      | none => rfl
      | some hit => exact keeps hit found
  · rfl

/-- An operation on one kid that replaces its entry. -/
theorem applied_of_replaced
    {lru : LinkedList String}
    {next : Nat}
    {hit replaced : Entry}
    (consistent : Consistent cache)
    (dropsHit : droppedHit cache operation = none)
    (dropsMiss : droppedMiss cache operation = none)
    (after : ∀ key stored, entryAfter cache key stored operation =
      if key = cacheKey jwksUri kid then stored.bind change else stored)
    (miss_eq : ∀ key, missAfter cache key (cache.misses.lookup key) operation =
      cache.misses.lookup key)
    (found : cache.findHit jwksUri kid = some hit)
    (changes : change hit = some replaced)
    (indexed : Lru.Indexed Entry.lruIt lru
      (cache.hits.insert (cacheKey jwksUri kid) replaced)) :
    Applied cache operation { cache with
      nextReservationId := next
      hitLru := lru
      hits := cache.hits.insert (cacheKey jwksUri kid) replaced } := by
  have found : cache.hits.lookup (cacheKey jwksUri kid) = some hit := found
  refine applied_of_hits consistent indexed ?_ dropsHit dropsMiss ?_ miss_eq
  · rw [size_insert_of_stored found]
    exact consistent.hits_le
  · intro key
    rw [UnorderedMap.lookup_insert_eq_ite, after]
    split
    · next isKey => rw [isKey, found, Option.bind_some, changes]
    · rfl

end OneKid

theorem tryReserveRefresh_applied
    (consistent : Consistent cache)
    (kid : String)
    (nowS : Int)
    (jwksUri : String) :
    Applied cache (.tryReserveRefresh kid nowS jwksUri)
      (cache.tryReserveRefresh kid nowS jwksUri).2 := by
  have after : ∀ key stored,
      entryAfter cache key stored (.tryReserveRefresh kid nowS jwksUri) =
        if key = cacheKey jwksUri kid then stored.map _ else stored :=
    fun key stored => rfl
  simp only [Option.map_eq_bind] at after
  have refused : (∀ hit, cache.findHit jwksUri kid = some hit →
        refreshDue cache.minRefreshS nowS hit = false) →
      Applied cache (.tryReserveRefresh kid nowS jwksUri) cache := by
    intro notDue
    refine applied_of_kept consistent rfl rfl after (fun _ => rfl) ?_
    intro hit found
    simp [notDue hit found]
  have granted : ∀ hit, cache.findHit jwksUri kid = some hit →
      refreshDue cache.minRefreshS nowS hit = true →
      Applied cache (.tryReserveRefresh kid nowS jwksUri)
        (grantReservation (cacheKey jwksUri kid) hit nowS cache).2 := by
    intro hit found isDue
    refine applied_of_replaced consistent rfl rfl after (fun _ => rfl) found ?_
      (consistent.hits.update found rfl)
    rw [Function.comp_apply, if_pos isDue]
  unfold tryReserveRefresh
  split
  · next absent =>
      refine refused fun hit found => ?_
      cases absent.symm.trans found
  · next hit found =>
      split
      · next relation => exact granted hit found (by simp [refreshDue, relation])
      · next relation =>
          refine refused fun other present => ?_
          cases found.symm.trans present
          simp [refreshDue, relation]
      · next relation =>
          split
          · next tooSoon =>
              refine refused fun other present => ?_
              cases found.symm.trans present
              simpa [refreshDue, relation] using tooSoon
          · next isDue =>
              refine granted hit found ?_
              simpa [refreshDue, relation] using isDue

theorem commitRefresh_applied
    (consistent : Consistent cache)
    (kid : String)
    (reservationId : Nat)
    (keys : List Jwk)
    (nowS : Int)
    (jwksUri : String) :
    Applied cache (.commitRefresh kid reservationId keys nowS jwksUri)
      (cache.commitRefresh kid reservationId keys nowS jwksUri).2 := by
  have after : ∀ key stored,
      entryAfter cache key stored (.commitRefresh kid reservationId keys nowS jwksUri) =
        if key = cacheKey jwksUri kid then stored.map _ else stored :=
    fun key stored => rfl
  simp only [Option.map_eq_bind] at after
  have refused : (∀ hit, cache.findHit jwksUri kid = some hit →
        acceptsCommit reservationId keys nowS hit = false) →
      Applied cache (.commitRefresh kid reservationId keys nowS jwksUri) cache := by
    intro rejects
    refine applied_of_kept consistent rfl rfl after (fun _ => rfl) ?_
    intro hit found
    simp [rejects hit found]
  unfold commitRefresh
  split
  · next void =>
      refine refused fun hit _ => ?_
      rcases void with isZero | isEmpty
      · simp [acceptsCommit, isZero]
      · simp [acceptsCommit, isEmpty]
  · next effective =>
      split
      · next absent =>
          refine refused fun hit found => ?_
          cases absent.symm.trans found
      · next hit found =>
          split
          · next other =>
              refine refused fun present isPresent => ?_
              cases found.symm.trans isPresent
              simp [acceptsCommit, other]
          · next awaited =>
              split
              · next rewound =>
                  refine refused fun present isPresent => ?_
                  cases found.symm.trans isPresent
                  simp [acceptsCommit, rewound]
              · next notRewound =>
                  have accepts : acceptsCommit reservationId keys nowS hit = true := by
                    rw [not_or] at effective
                    simp [acceptsCommit, effective, not_not.mp awaited, notRewound]
                  refine applied_of_replaced consistent rfl rfl after (fun _ => rfl) found
                    ?_ (consistent.hits.moveToFront found rfl)
                  rw [Function.comp_apply, if_pos accepts]
                  rfl

theorem recordKidAbsent_applied
    (consistent : Consistent cache)
    (kid : String)
    (reservationId : Nat)
    (nowS : Int)
    (jwksUri : String) :
    Applied cache (.recordKidAbsent kid reservationId nowS jwksUri)
      (cache.recordKidAbsent kid reservationId nowS jwksUri).2 := by
  have after : ∀ key stored,
      entryAfter cache key stored (.recordKidAbsent kid reservationId nowS jwksUri) =
        if key = cacheKey jwksUri kid then stored.bind _ else stored :=
    fun key stored => rfl
  have refused : (∀ hit, cache.findHit jwksUri kid = some hit →
        countsAbsence reservationId hit = false) →
      Applied cache (.recordKidAbsent kid reservationId nowS jwksUri) cache := by
    intro ignores
    refine applied_of_kept consistent rfl rfl after (fun _ => rfl) ?_
    intro hit found
    simp [ignores hit found]
  unfold recordKidAbsent
  split
  · next absent =>
      refine refused fun hit found => ?_
      cases absent.symm.trans found
  · next hit found =>
      split
      · next ignored =>
          refine refused fun present isPresent => ?_
          cases found.symm.trans isPresent
          simp [countsAbsence, ignored]
      · next counted =>
          have found : cache.hits.lookup (cacheKey jwksUri kid) = some hit := found
          have counts : countsAbsence reservationId hit = true := by
            simp only [countsAbsence, Bool.or_eq_true, decide_eq_true_eq]
            tauto
          dsimp only
          split
          · next again =>
              have counted_ne : hit.consecutiveAbsentCount ≠ 0 := by omega
              refine applied_of_hits consistent (consistent.hits.erase found) ?_ rfl rfl ?_
                fun _ => rfl
              · exact le_trans (UnorderedMap.size_erase_le _ _) consistent.hits_le
              · intro key
                rw [UnorderedMap.lookup_erase_eq_ite, entryAfter]
                split
                · next isKey =>
                    rw [isKey, found, Option.bind_some, if_pos counts, if_neg counted_ne]
                · rfl
          · next first =>
              have uncounted : hit.consecutiveAbsentCount = 0 := by omega
              refine applied_of_replaced consistent rfl rfl after (fun _ => rfl) found ?_
                (consistent.hits.update found rfl)
              rw [if_pos counts, if_pos uncounted, uncounted]

theorem countAbsence_lruIt (presence : Option Bool) (entry : Entry) :
    (countAbsence presence entry).lruIt = entry.lruIt := by
  unfold countAbsence
  split <;> rfl

theorem reconcileAbsentKids_applied
    (consistent : Consistent cache)
    (presentKids : List String)
    (jwksUri excludeKid : String) :
    Applied cache (.reconcileAbsentKids presentKids jwksUri excludeKid)
      (cache.reconcileAbsentKids presentKids jwksUri excludeKid) := by
  have counted := consistent.hits.mapEntries
    (fun key entry => countAbsence (kidPresence presentKids jwksUri excludeKid key) entry)
    fun key entry => countAbsence_lruIt _ entry
  refine applied_of_hits consistent (counted.filter _) ?_ rfl rfl ?_ fun _ => rfl
  · refine le_trans (List.length_filter_le _ _) ?_
    rw [UnorderedMap.mapEntries, List.length_map]
    exact consistent.hits_le
  · intro key
    rw [UnorderedMap.lookup_filter, UnorderedMap.lookup_mapEntries]
    rfl

/-- Forgetting the miss of a key leaves room for one. -/
theorem missVictim_dropMiss
    {key : String}
    (consistent : Consistent cache) :
    Lru.victim cache.maxEntries.1 (dropMiss key cache).missLru
        (dropMiss key cache).misses =
      if (cache.misses.lookup key).isSome then none else cache.missVictim := by
  unfold dropMiss
  cases found : cache.misses.lookup key with
  | none => rfl
  | some miss =>
      have member : key ∈ cache.misses := AList.lookup_isSome.mp (by rw [found]; rfl)
      have smaller := UnorderedMap.size_erase_add_one member
      have within := consistent.misses_le
      simp only [Option.isSome_some, if_true, Lru.victim]
      exact if_pos (by omega)

theorem onFetchMiss_eq
    (kid : String)
    (nowS : Int)
    (jwksUri : String)
    (cache : JwksCache) :
    cache.onFetchMiss kid nowS jwksUri =
      let dropped := dropMiss (cacheKey jwksUri kid) cache
      let result := Lru.storeNew dropped.maxEntries.1 dropped.missLru dropped.misses
        (cacheKey jwksUri kid) { recordedAtS := nowS, lruIt := dropped.missLru.nextNode }
      { dropped with missLru := result.1, misses := result.2 } := by
  unfold onFetchMiss
  rw [evictMisses_eq]
  rfl

theorem onFetchMiss_applied
    (consistent : Consistent cache)
    (kid : String)
    (nowS : Int)
    (jwksUri : String) :
    Applied cache (.onFetchMiss kid nowS jwksUri)
      (cache.onFetchMiss kid nowS jwksUri) := by
  have indexed := dropMiss_indexed (cacheKey jwksUri kid) consistent.misses
  have absent : (dropMiss (cacheKey jwksUri kid) cache).misses.lookup
      (cacheKey jwksUri kid) = none := by
    rw [lookup_misses_dropMiss, if_pos rfl]
  have within := le_trans (size_misses_dropMiss_le (cacheKey jwksUri kid) cache)
    consistent.misses_le
  obtain ⟨inserted, size_le, -, lookup_eq⟩ := Lru.storeNew_stored
    { recordedAtS := nowS
      lruIt := (dropMiss (cacheKey jwksUri kid) cache).missLru.nextNode }
    indexed within cache.maxEntries.2 absent rfl
  rw [onFetchMiss_eq]
  refine ⟨by simp, by simp, ⟨?_, ?_, ?_, ?_⟩, ?_, ?_⟩
  · simpa using consistent.hits
  · simpa using consistent.hits_le
  · simpa using inserted
  · simpa using size_le
  · intro key
    simp [droppedHit, entryAfter]
  · intro key
    have read := lookup_eq key
    rw [missVictim_dropMiss consistent, lookup_misses_dropMiss] at read
    simp only [maxEntries_dropMiss, nextNode_missLru_dropMiss] at read ⊢
    rw [read, droppedMiss, missAfter, findMiss]
    by_cases isKey : key = cacheKey jwksUri kid
    · simp only [if_pos isKey]
    · simp only [if_neg isKey]

/-- Storing the keys of a kid that is not cached. -/
theorem onFetchSuccess_new_eq
    {kid : String}
    {keys : List Jwk}
    {jwksUri : String}
    (nonempty : keys ≠ [])
    (absent : cache.hits.lookup (cacheKey jwksUri kid) = none)
    (nowS : Int) :
    cache.onFetchSuccess kid keys nowS jwksUri =
      let dropped := dropMiss (cacheKey jwksUri kid) (recordJwksFetchSuccess nowS jwksUri cache)
      let result := Lru.storeNew dropped.maxEntries.1 dropped.hitLru dropped.hits
        (cacheKey jwksUri kid) (newEntry dropped keys nowS)
      { dropped with hitLru := result.1, hits := result.2 } := by
  unfold onFetchSuccess
  rw [if_neg nonempty]
  simp only [hits_dropMiss, hits_recordJwksFetchSuccess, absent, evictHits_eq]
  rfl

theorem recorded_misses
    (consistent : Consistent cache)
    (key : String)
    (nowS : Int)
    (jwksUri : String) :
    let dropped := dropMiss key (recordJwksFetchSuccess nowS jwksUri cache)
    Lru.Indexed MissEntry.lruIt dropped.missLru dropped.misses ∧
      UnorderedMap.size dropped.misses ≤ cache.maxEntries.1 ∧
      ∀ other, dropped.misses.lookup other =
        if other = key then none else cache.misses.lookup other := by
  refine ⟨dropMiss_indexed key ?_, ?_, fun other => ?_⟩
  · simpa using consistent.misses
  · refine le_trans (size_misses_dropMiss_le key _) ?_
    simpa using consistent.misses_le
  · rw [lookup_misses_dropMiss, misses_recordJwksFetchSuccess]

theorem onFetchSuccess_applied
    (consistent : Consistent cache)
    (kid : String)
    (keys : List Jwk)
    (nowS : Int)
    (jwksUri : String) :
    Applied cache (.onFetchSuccess kid keys nowS jwksUri)
      (cache.onFetchSuccess kid keys nowS jwksUri) := by
  by_cases isEmpty : keys = []
  · subst isEmpty
    refine applied_of_maps_eq consistent rfl rfl rfl rfl rfl rfl ?_ rfl ?_ ?_ <;>
      simp [droppedHit, entryAfter, missAfter]
  obtain ⟨missesIndexed, misses_le, lookup_misses⟩ :=
    recorded_misses consistent (cacheKey jwksUri kid) nowS jwksUri
  have lookup_misses : ∀ key, (dropMiss (cacheKey jwksUri kid)
      (recordJwksFetchSuccess nowS jwksUri cache)).misses.lookup key =
        missAfter cache key (cache.misses.lookup key)
          (.onFetchSuccess kid keys nowS jwksUri) := by
    intro key
    rw [lookup_misses, missAfter]
    simp only [isEmpty, ne_eq, not_false_eq_true, and_true]
  cases found : cache.hits.lookup (cacheKey jwksUri kid) with
  | none =>
      obtain ⟨indexed, size_le, -, lookup_eq⟩ := Lru.storeNew_stored
        (newEntry cache keys nowS) consistent.hits consistent.hits_le
        cache.maxEntries.2 found rfl
      rw [onFetchSuccess_new_eq isEmpty found]
      refine ⟨by simp, by simp, ⟨?_, ?_, missesIndexed, ?_⟩, ?_, lookup_misses⟩
      · simpa [newEntry] using indexed
      · simpa [newEntry] using size_le
      · simpa using misses_le
      · intro key
        have read := lookup_eq key
        simp only [newEntry, maxEntries_dropMiss, maxEntries_recordJwksFetchSuccess,
          hitLru_dropMiss, hitLru_recordJwksFetchSuccess, hits_dropMiss,
          hits_recordJwksFetchSuccess] at read ⊢
        rw [read]
        by_cases isKey : key = cacheKey jwksUri kid
        · subst isKey
          simp [droppedHit, entryAfter, storedEntry, findHit, found, isEmpty, hitVictim,
            newEntry]
        · simp [droppedHit, entryAfter, findHit, found, isKey, isEmpty, hitVictim]
  | some hit =>
      unfold onFetchSuccess
      rw [if_neg isEmpty]
      simp only [hits_dropMiss, hits_recordJwksFetchSuccess, found]
      refine ⟨by simp, by simp, ⟨?_, ?_, missesIndexed, ?_⟩, ?_, lookup_misses⟩
      · simpa using consistent.hits.moveToFront found rfl
      · dsimp only
        rw [size_insert_of_stored found]
        simpa using consistent.hits_le
      · simpa using misses_le
      · intro key
        dsimp only
        rw [UnorderedMap.lookup_insert_eq_ite]
        by_cases isKey : key = cacheKey jwksUri kid
        · subst isKey
          simp [droppedHit, entryAfter, storedEntry, findHit, found, isEmpty,
            LinkedList.erase]
        · simp [droppedHit, entryAfter, findHit, found, isKey]

theorem onPassiveFetchSuccess_applied
    (consistent : Consistent cache)
    (kid : String)
    (keys : List Jwk)
    (nowS : Int)
    (jwksUri : String) :
    Applied cache (.onPassiveFetchSuccess kid keys nowS jwksUri)
      (cache.onPassiveFetchSuccess kid keys nowS jwksUri) := by
  unfold onPassiveFetchSuccess
  split
  · next isEmpty =>
      subst isEmpty
      refine applied_of_maps_eq consistent rfl rfl rfl rfl rfl rfl ?_ rfl ?_ ?_ <;>
        simp [droppedHit, entryAfter, missAfter]
  · next nonempty =>
      split
      · next hit present =>
          have found : cache.hits.lookup (cacheKey jwksUri kid) = some hit := present
          refine applied_of_hits consistent (consistent.hits.update found rfl) ?_ ?_ rfl
            ?_ ?_
          · rw [size_insert_of_stored found]
            exact consistent.hits_le
          · simp [droppedHit, present]
          · intro key
            rw [UnorderedMap.lookup_insert_eq_ite]
            by_cases isKey : key = cacheKey jwksUri kid
            · subst isKey
              simp [entryAfter, extendedEntry, found, nonempty]
            · simp [entryAfter, isKey]
          · intro key
            simp [missAfter, present]
      · next absent =>
          -- A new kid is stored as by the authoritative operation.
          have found : cache.hits.lookup (cacheKey jwksUri kid) = none := absent
          obtain ⟨minRefreshS_eq, maxEntries_eq, stays, lookup_hits, lookup_misses⟩ :=
            onFetchSuccess_applied consistent kid keys nowS jwksUri
          refine ⟨minRefreshS_eq, maxEntries_eq, stays, fun key => ?_, fun key => ?_⟩
          · rw [lookup_hits]
            by_cases isKey : key = cacheKey jwksUri kid
            · subst isKey
              simp [droppedHit, entryAfter, storedEntry, extendedEntry, found]
            · simp [droppedHit, entryAfter, isKey]
          · rw [lookup_misses]
            simp [droppedMiss, missAfter, absent]

/-- What each operation does to a cache whose maps and lists belong together. -/
theorem apply_applied
    (consistent : Consistent cache)
    (operation : Operation) :
    Applied cache operation (cache.apply operation) := by
  cases operation with
  | tryReserveRefresh kid nowS jwksUri =>
      exact tryReserveRefresh_applied consistent kid nowS jwksUri
  | commitRefresh kid reservationId keys nowS jwksUri =>
      exact commitRefresh_applied consistent kid reservationId keys nowS jwksUri
  | recordKidAbsent kid reservationId nowS jwksUri =>
      exact recordKidAbsent_applied consistent kid reservationId nowS jwksUri
  | reconcileAbsentKids presentKids jwksUri excludeKid =>
      exact reconcileAbsentKids_applied consistent presentKids jwksUri excludeKid
  | onFetchSuccess kid keys nowS jwksUri =>
      exact onFetchSuccess_applied consistent kid keys nowS jwksUri
  | onPassiveFetchSuccess kid keys nowS jwksUri =>
      exact onPassiveFetchSuccess_applied consistent kid keys nowS jwksUri
  | onFetchMiss kid nowS jwksUri => exact onFetchMiss_applied consistent kid nowS jwksUri
  | recordJwksFetch nowS =>
      apply applied_of_maps_eq consistent <;>
        simp [apply, recordJwksFetch, droppedHit, droppedMiss, entryAfter, missAfter,
          apply_ite]
  | recordJwksFetchSuccess nowS jwksUri =>
      apply applied_of_maps_eq consistent <;>
        simp [apply, droppedHit, droppedMiss, entryAfter, missAfter]
  | incrementThrottledRefreshes isBudget nowS =>
      exact applied_of_maps_eq consistent rfl rfl rfl rfl rfl rfl rfl rfl
        (fun _ => rfl) fun _ => rfl
  | setLastRefreshReason reason =>
      exact applied_of_maps_eq consistent rfl rfl rfl rfl rfl rfl rfl rfl
        (fun _ => rfl) fun _ => rfl

theorem create_consistent (minRefreshS : Int) (maxEntries : Nat) :
    Consistent (create minRefreshS maxEntries) where
  hits := Lru.empty_indexed
  hits_le := Nat.zero_le _
  misses := Lru.empty_indexed
  misses_le := Nat.zero_le _

/-- No operation changes interval or limit. -/
theorem applyAll_bounds
    (operations : List Operation)
    (consistent : Consistent cache) :
    (cache.applyAll operations).minRefreshS = cache.minRefreshS ∧
      (cache.applyAll operations).maxEntries = cache.maxEntries := by
  induction operations generalizing cache with
  | nil => exact ⟨rfl, rfl⟩
  | cons operation operations inductionHypothesis =>
      have applied := apply_applied consistent operation
      obtain ⟨minRefreshS_eq, maxEntries_eq⟩ := inductionHypothesis applied.consistent
      exact ⟨minRefreshS_eq.trans applied.minRefreshS_eq,
        maxEntries_eq.trans applied.maxEntries_eq⟩

/-- The maps and lists of a cache belong together in every run. -/
theorem applyAll_consistent
    (operations : List Operation)
    (consistent : Consistent cache) :
    Consistent (cache.applyAll operations) := by
  apply Machine.run_invariant apply _ operations consistent
  intro state operation holds
  exact (apply_applied holds operation).consistent

end JwksCache
end Jwks
end QuackOauth
