import QuackOauth.Jwks.Operation

/-!
# Counted absences

How the operations on the cache count the absences of a kid: which of them count one,
which start the count afresh, and that one absence alone does not evict.
-/

namespace QuackOauth
namespace Jwks

open Lib

/-- An absence is counted of the kid under a key. -/
def Counted (key : String) (cache : JwksCache) : Prop :=
  ∃ hit, cache.hits.lookup key = some hit ∧ hit.consecutiveAbsentCount ≠ 0

/-- The kid under a key is cached with no absence counted. -/
def Uncounted (key : String) (cache : JwksCache) : Prop :=
  ∃ hit, cache.hits.lookup key = some hit ∧ hit.consecutiveAbsentCount = 0

/-- An operation that counts no absence under a key. -/
def CountsNone (key : String) : Operation → Prop
  | .recordKidAbsent kid _ _ jwksUri => key ≠ cacheKey jwksUri kid
  | .reconcileAbsentKids presentKids jwksUri excludeKid =>
      JwksCache.kidPresence presentKids jwksUri excludeKid key ≠ some false
  | _ => True

variable {key : String} {cache after : JwksCache} {operation : Operation}
variable {operations : List Operation}

theorem not_counted_of_uncounted (uncounted : Uncounted key cache) : ¬Counted key cache := by
  rintro ⟨hit, found, counted⟩
  obtain ⟨other, otherFound, isZero⟩ := uncounted
  rw [found, Option.some_inj] at otherFound
  rw [otherFound] at counted
  exact counted isZero

theorem uncounted_of_not_counted
    (present : (cache.hits.lookup key).isSome = true)
    (notCounted : ¬Counted key cache) :
    Uncounted key cache := by
  obtain ⟨hit, found⟩ := Option.isSome_iff_exists.mp present
  refine ⟨hit, found, ?_⟩
  by_contra counted
  exact notCounted ⟨hit, found, counted⟩

/-- An operation that counts no absence leaves the count of an entry or sets it to
zero. -/
theorem entryAfter_of_countsNone
    (cache : JwksCache)
    (countsNone : CountsNone key operation)
    (hit : Entry) :
    ∃ next, cache.entryAfter key (some hit) operation = some next ∧
      (next.consecutiveAbsentCount = 0 ∨
        next.consecutiveAbsentCount = hit.consecutiveAbsentCount) := by
  cases operation with
  | tryReserveRefresh kid nowS jwksUri =>
      rw [JwksCache.entryAfter]
      split
      · refine ⟨_, rfl, .inr ?_⟩
        dsimp only
        split <;> rfl
      · exact ⟨hit, rfl, .inr rfl⟩
  | commitRefresh kid reservationId keys nowS jwksUri =>
      rw [JwksCache.entryAfter]
      split
      · refine ⟨_, rfl, ?_⟩
        dsimp only
        split
        · exact .inl rfl
        · exact .inr rfl
      · exact ⟨hit, rfl, .inr rfl⟩
  | recordKidAbsent kid reservationId nowS jwksUri =>
      rw [JwksCache.entryAfter, if_neg countsNone]
      exact ⟨hit, rfl, .inr rfl⟩
  | reconcileAbsentKids presentKids jwksUri excludeKid =>
      have notAbsent : JwksCache.kidPresence presentKids jwksUri excludeKid key ≠
        some false := countsNone
      rw [JwksCache.entryAfter]
      cases presence : JwksCache.kidPresence presentKids jwksUri excludeKid key with
      | none => exact ⟨hit, rfl, .inr rfl⟩
      | some isPresent =>
          cases isPresent with
          | true => exact ⟨_, rfl, .inl rfl⟩
          | false => exact absurd presence notAbsent
  | onFetchSuccess kid keys nowS jwksUri =>
      rw [JwksCache.entryAfter]
      split
      · exact ⟨_, rfl, .inl rfl⟩
      · exact ⟨hit, rfl, .inr rfl⟩
  | onPassiveFetchSuccess kid keys nowS jwksUri =>
      rw [JwksCache.entryAfter]
      split
      · exact ⟨_, rfl, .inl rfl⟩
      · exact ⟨hit, rfl, .inr rfl⟩
  | onFetchMiss | recordJwksFetch | recordJwksFetchSuccess
  | incrementThrottledRefreshes | setLastRefreshReason => exact ⟨hit, rfl, .inr rfl⟩

/-- A kid that was not cached is cached with no absence counted. -/
theorem entryAfter_of_absent
    {next : Entry}
    (stores : cache.entryAfter key none operation = some next) :
    next.consecutiveAbsentCount = 0 := by
  cases JwksCache.successor_of_entryAfter stores with
  | stored isKey nonempty => rfl
  | extended isKey nonempty => rfl

/-- Nothing is counted under a key: its kid stays cached, and the count is left as it
was or set to zero. -/
structure Unmarked (key : String) (cache after : JwksCache) : Prop where
  stays : (cache.hits.lookup key).isSome = true → (after.hits.lookup key).isSome = true
  count : ∀ next, after.hits.lookup key = some next →
    next.consecutiveAbsentCount = 0 ∨
      ∃ hit, cache.hits.lookup key = some hit ∧
        next.consecutiveAbsentCount = hit.consecutiveAbsentCount

theorem Unmarked.counted
    (unmarked : Unmarked key cache after)
    (counted : Counted key after) :
    Counted key cache := by
  obtain ⟨next, found, nextCounted⟩ := counted
  rcases unmarked.count next found with isZero | ⟨hit, hitFound, same⟩
  · exact absurd isZero nextCounted
  · exact ⟨hit, hitFound, same ▸ nextCounted⟩

theorem Unmarked.uncounted
    (unmarked : Unmarked key cache after)
    (uncounted : Uncounted key cache) :
    Uncounted key after := by
  have present : (cache.hits.lookup key).isSome = true := by
    obtain ⟨hit, found, -⟩ := uncounted
    rw [found]
    rfl
  exact uncounted_of_not_counted (unmarked.stays present)
    fun counted => not_counted_of_uncounted uncounted (unmarked.counted counted)

theorem apply_unmarked
    (consistent : cache.Consistent)
    (fits : ¬cache.Overflows operation)
    (countsNone : CountsNone key operation) :
    Unmarked key cache (cache.apply operation) := by
  have lookup_eq := (JwksCache.apply_applied consistent operation).lookup_hits key
  rw [JwksCache.droppedHit_of_not_overflows fits, if_neg (Option.some_ne_none _).symm]
    at lookup_eq
  cases found : cache.hits.lookup key with
  | none =>
      refine ⟨fun present => ?_, fun next nextFound => .inl ?_⟩
      · rw [found] at present
        cases present
      · rw [lookup_eq, found] at nextFound
        exact entryAfter_of_absent nextFound
  | some hit =>
      obtain ⟨next, next_eq, count⟩ := entryAfter_of_countsNone cache countsNone hit
      rw [found, next_eq] at lookup_eq
      refine ⟨fun _ => lookup_eq ▸ rfl, fun other otherFound => ?_⟩
      rw [lookup_eq, Option.some_inj] at otherFound
      subst otherFound
      exact count.imp_right fun same => ⟨hit, found, same⟩

/-- So it is with any number of such operations. -/
theorem applyAll_unmarked
    (consistent : cache.Consistent)
    (fits : cache.Fits operations)
    (countNone : ∀ operation ∈ operations, CountsNone key operation) :
    Unmarked key cache (cache.applyAll operations) := by
  induction operations generalizing cache with
  | nil => exact ⟨id, fun next found => .inr ⟨next, found, rfl⟩⟩
  | cons operation operations inductionHypothesis =>
      obtain ⟨fitsFirst, fitsRest⟩ := fits
      have first := apply_unmarked consistent fitsFirst
        (countNone operation List.mem_cons_self)
      have rest := inductionHypothesis
        (JwksCache.apply_applied consistent operation).consistent fitsRest
        fun next member => countNone next (List.mem_cons_of_mem _ member)
      refine ⟨fun present => rest.stays (first.stays present), fun next found => ?_⟩
      rcases rest.count next found with isZero | ⟨between, betweenFound, same⟩
      · exact .inl isZero
      · rw [same]
        exact first.count between betweenFound

/-- A first absence does not evict. -/
theorem isSome_apply_of_uncounted
    (consistent : cache.Consistent)
    (fits : ¬cache.Overflows operation)
    (uncounted : Uncounted key cache) :
    ((cache.apply operation).hits.lookup key).isSome = true := by
  obtain ⟨hit, found, isZero⟩ := uncounted
  rw [(JwksCache.apply_applied consistent operation).lookup_hits key,
    JwksCache.droppedHit_of_not_overflows fits, if_neg (Option.some_ne_none _).symm, found,
    JwksCache.entryAfter_isSome operation found]
  unfold JwksCache.evictsAbsent
  rw [found]
  cases operation <;> simp [isZero]

/-- What starts a count afresh has done so at the end, if nothing counts after it. -/
theorem uncounted_of_restarts
    {later : List Operation}
    (before : List Operation)
    (consistent : cache.Consistent)
    (fits : cache.Fits (before ++ operation :: later))
    (restarts : Uncounted key ((cache.applyAll before).apply operation))
    (countNone : ∀ next ∈ later, CountsNone key next) :
    Uncounted key (cache.applyAll (before ++ operation :: later)) := by
  have stays := JwksCache.applyAll_consistent before consistent
  have fitsLater := ((Machine.allSteps_append JwksCache.apply).mp fits).2.2
  rw [JwksCache.applyAll, Machine.run_append, Machine.run_cons]
  exact (applyAll_unmarked (JwksCache.apply_applied stays operation).consistent fitsLater
    countNone).uncounted restarts

/-- One operation among others that count nothing is not enough to evict. -/
theorem isSome_of_once
    {later : List Operation}
    (before : List Operation)
    (consistent : cache.Consistent)
    (fits : cache.Fits (before ++ operation :: later))
    (uncounted : Uncounted key cache)
    (countNoneBefore : ∀ next ∈ before, CountsNone key next)
    (countNoneLater : ∀ next ∈ later, CountsNone key next) :
    ((cache.applyAll (before ++ operation :: later)).hits.lookup key).isSome = true := by
  have stays := JwksCache.applyAll_consistent before consistent
  obtain ⟨fitsBefore, fitsNow, fitsLater⟩ :=
    (Machine.allSteps_append JwksCache.apply).mp fits
  have stillUncounted := (applyAll_unmarked consistent fitsBefore countNoneBefore).uncounted
    uncounted
  rw [JwksCache.applyAll, Machine.run_append, Machine.run_cons]
  exact (applyAll_unmarked (JwksCache.apply_applied stays operation).consistent fitsLater
    countNoneLater).stays (isSome_apply_of_uncounted stays fitsNow stillUncounted)

/-- An operation that stores no keys under a key. -/
def StoresNone (key : String) : Operation → Prop
  | .onFetchSuccess kid keys _ jwksUri => ¬(key = cacheKey jwksUri kid ∧ keys ≠ [])
  | .onPassiveFetchSuccess kid keys _ jwksUri => ¬(key = cacheKey jwksUri kid ∧ keys ≠ [])
  | _ => True

/-- A kid for which nothing is stored is not cached afterwards either. -/
theorem applyAll_absent
    (consistent : cache.Consistent)
    (absent : cache.hits.lookup key = none)
    (storeNone : ∀ operation ∈ operations, StoresNone key operation) :
    (cache.applyAll operations).hits.lookup key = none := by
  induction operations generalizing cache with
  | nil => exact absent
  | cons operation operations inductionHypothesis =>
      have applied := JwksCache.apply_applied consistent operation
      refine inductionHypothesis applied.consistent ?_
        fun next member => storeNone next (List.mem_cons_of_mem _ member)
      rw [applied.lookup_hits, absent]
      have storesNone := storeNone operation List.mem_cons_self
      split
      · rfl
      · cases operation with
        | onFetchSuccess => exact if_neg storesNone
        | onPassiveFetchSuccess => exact if_neg storesNone
        | tryReserveRefresh | commitRefresh | recordKidAbsent => exact ite_self _
        | reconcileAbsentKids | onFetchMiss | recordJwksFetch | recordJwksFetchSuccess
        | incrementThrottledRefreshes | setLastRefreshReason => rfl

/-- Ingesting a key starts the count of its kid afresh. -/
theorem uncounted_onPassiveFetchSuccess
    {kid jwksUri : String}
    {keys : List Jwk}
    {nowS : Int}
    (consistent : cache.Consistent)
    (fits : ¬cache.Overflows (.onPassiveFetchSuccess kid keys nowS jwksUri))
    (nonempty : keys ≠ []) :
    Uncounted (cacheKey jwksUri kid)
      (cache.apply (.onPassiveFetchSuccess kid keys nowS jwksUri)) := by
  have lookup_eq := (JwksCache.apply_applied consistent
    (.onPassiveFetchSuccess kid keys nowS jwksUri)).lookup_hits (cacheKey jwksUri kid)
  rw [JwksCache.droppedHit_of_not_overflows fits, if_neg (Option.some_ne_none _).symm,
    JwksCache.entryAfter, if_pos ⟨rfl, nonempty⟩] at lookup_eq
  refine ⟨_, lookup_eq, ?_⟩
  cases cache.hits.lookup (cacheKey jwksUri kid) <;> rfl

/-- A commit that is accepted starts the count of its kid afresh. -/
theorem uncounted_commitRefresh
    {kid jwksUri : String}
    {reservationId : Nat}
    {keys : List Jwk}
    {nowS : Int}
    {hit : Entry}
    (consistent : cache.Consistent)
    (found : cache.findHit jwksUri kid = some hit)
    (accepts : JwksCache.acceptsCommit reservationId keys nowS hit = true) :
    Uncounted (cacheKey jwksUri kid)
      (cache.apply (.commitRefresh kid reservationId keys nowS jwksUri)) := by
  have lookup_eq := (JwksCache.apply_applied consistent
    (.commitRefresh kid reservationId keys nowS jwksUri)).lookup_hits (cacheKey jwksUri kid)
  have noVictim : cache.droppedHit (.commitRefresh kid reservationId keys nowS jwksUri) =
      none := rfl
  rw [JwksCache.findHit] at found
  rw [noVictim, if_neg (Option.some_ne_none _).symm, JwksCache.entryAfter, if_pos rfl,
    found, Option.map_some, if_pos accepts] at lookup_eq
  exact ⟨_, lookup_eq, rfl⟩

/-- Reconciliation starts the count of a kid that is present afresh. -/
theorem uncounted_reconcileAbsentKids
    {presentKids : List String}
    {jwksUri excludeKid : String}
    (consistent : cache.Consistent)
    (found : (cache.hits.lookup key).isSome = true)
    (present : JwksCache.kidPresence presentKids jwksUri excludeKid key = some true) :
    Uncounted key (cache.apply (.reconcileAbsentKids presentKids jwksUri excludeKid)) := by
  obtain ⟨hit, found⟩ := Option.isSome_iff_exists.mp found
  have lookup_eq := (JwksCache.apply_applied consistent
    (.reconcileAbsentKids presentKids jwksUri excludeKid)).lookup_hits key
  have noVictim : cache.droppedHit (.reconcileAbsentKids presentKids jwksUri excludeKid) =
      none := rfl
  rw [noVictim, if_neg (Option.some_ne_none _).symm, JwksCache.entryAfter, present,
    found] at lookup_eq
  exact ⟨_, lookup_eq, rfl⟩

end Jwks
end QuackOauth
