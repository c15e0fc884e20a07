import QuackOauth.Jwks.Operation

/-!
# Who is dropped when the cache is full

The recency lists hold their keys in the order in which they were last renewed: a hit
when it is created or committed, a miss when it is recorded.  What an insertion drops
for lack of room is therefore the entry whose last renewal is the oldest.
-/

namespace QuackOauth
namespace Jwks

open Lib

namespace JwksCache

/-- The key whose entry an operation creates or commits. -/
def renewedHit (cache : JwksCache) : Operation → Option String
  | .commitRefresh kid reservationId keys nowS jwksUri =>
      if (cache.findHit jwksUri kid).any (acceptsCommit reservationId keys nowS) then
        some (cacheKey jwksUri kid)
      else none
  | .onFetchSuccess kid keys _ jwksUri =>
      if keys = [] then none else some (cacheKey jwksUri kid)
  | .onPassiveFetchSuccess kid keys _ jwksUri =>
      if keys = [] ∨ (cache.findHit jwksUri kid).isSome then none
      else some (cacheKey jwksUri kid)
  | _ => none

/-- The key whose miss an operation records. -/
def renewedMiss (_cache : JwksCache) : Operation → Option String
  | .onFetchMiss kid _ jwksUri => some (cacheKey jwksUri kid)
  | _ => none

/-- An operation records a new miss although all are taken. -/
def OverflowsMisses (cache : JwksCache) : Operation → Prop
  | .onFetchMiss kid _ jwksUri =>
      cache.findMiss jwksUri kid = none ∧
        cache.maxEntries.1 ≤ UnorderedMap.size cache.misses
  | _ => False

/-- Both recency lists hold their nodes newest first. -/
structure NewestFirst (cache : JwksCache) : Prop where
  hits : Lru.NewestFirst cache.hitLru
  misses : Lru.NewestFirst cache.missLru

variable {cache : JwksCache} {key : String} {operation : Operation}

/-! ## The lists stay in order -/

theorem create_newestFirst (minRefreshS : Int) (maxEntries : Nat) :
    NewestFirst (create minRefreshS maxEntries) where
  hits := Lru.empty_newestFirst
  misses := Lru.empty_newestFirst

theorem dropMiss_newestFirst
    (sorted : NewestFirst cache)
    (key : String) :
    NewestFirst (dropMiss key cache) where
  hits := by
    rw [hitLru_dropMiss]
    exact sorted.hits
  misses := by
    unfold dropMiss
    split
    · exact sorted.misses
    · exact sorted.misses.erase _

theorem recordJwksFetchSuccess_newestFirst
    (sorted : NewestFirst cache)
    (nowS : Int)
    (jwksUri : String) :
    NewestFirst (recordJwksFetchSuccess nowS jwksUri cache) where
  hits := by
    rw [hitLru_recordJwksFetchSuccess]
    exact sorted.hits
  misses := by
    rw [missLru_recordJwksFetchSuccess]
    exact sorted.misses

theorem onFetchSuccess_newestFirst
    (sorted : NewestFirst cache)
    (kid : String)
    (keys : List Jwk)
    (nowS : Int)
    (jwksUri : String) :
    NewestFirst (onFetchSuccess kid keys nowS jwksUri cache) := by
  unfold onFetchSuccess
  split
  · exact sorted
  · have dropped := dropMiss_newestFirst
      (recordJwksFetchSuccess_newestFirst sorted nowS jwksUri) (cacheKey jwksUri kid)
    dsimp only
    split
    · exact ⟨(dropped.hits.erase _).pushFront _, dropped.misses⟩
    · refine ⟨?_, dropped.misses⟩
      rw [evictHits_eq]
      exact (dropped.hits.pushFront _).evict

theorem apply_newestFirst
    (sorted : NewestFirst cache)
    (operation : Operation) :
    NewestFirst (cache.apply operation) := by
  cases operation with
  | tryReserveRefresh kid nowS jwksUri =>
      rw [apply]
      unfold tryReserveRefresh grantReservation
      split
      · exact sorted
      · split
        · exact ⟨sorted.hits, sorted.misses⟩
        · exact sorted
        · split
          · exact sorted
          · exact ⟨sorted.hits, sorted.misses⟩
  | commitRefresh kid reservationId keys nowS jwksUri =>
      rw [apply]
      unfold commitRefresh
      split
      · exact sorted
      · split
        · exact sorted
        · split
          · exact sorted
          · split
            · exact sorted
            · exact ⟨(sorted.hits.erase _).pushFront _, sorted.misses⟩
  | recordKidAbsent kid reservationId nowS jwksUri =>
      rw [apply]
      unfold recordKidAbsent
      split
      · exact sorted
      · split
        · exact sorted
        · dsimp only
          split
          · exact ⟨sorted.hits.erase _, sorted.misses⟩
          · exact ⟨sorted.hits, sorted.misses⟩
  | reconcileAbsentKids presentKids jwksUri excludeKid =>
      exact ⟨sorted.hits.foldl_erase (fun evicted : (_ : String) × Entry => evicted.2.lruIt) _, sorted.misses⟩
  | onFetchSuccess kid keys nowS jwksUri =>
      exact onFetchSuccess_newestFirst sorted kid keys nowS jwksUri
  | onPassiveFetchSuccess kid keys nowS jwksUri =>
      rw [apply]
      unfold onPassiveFetchSuccess
      split
      · exact sorted
      · split
        · exact ⟨sorted.hits, sorted.misses⟩
        · exact onFetchSuccess_newestFirst sorted kid keys nowS jwksUri
  | onFetchMiss kid nowS jwksUri =>
      have dropped := dropMiss_newestFirst sorted (cacheKey jwksUri kid)
      refine ⟨dropped.hits, ?_⟩
      rw [apply, onFetchMiss, evictMisses_eq]
      exact (dropped.misses.pushFront _).evict
  | recordJwksFetch nowS =>
      rw [apply]
      unfold recordJwksFetch
      split
      · exact ⟨sorted.hits, sorted.misses⟩
      · exact ⟨sorted.hits, sorted.misses⟩
  | recordJwksFetchSuccess nowS jwksUri =>
      exact recordJwksFetchSuccess_newestFirst sorted nowS jwksUri
  | incrementThrottledRefreshes isBudget nowS => exact ⟨sorted.hits, sorted.misses⟩
  | setLastRefreshReason reason => exact ⟨sorted.hits, sorted.misses⟩

/-! ## Nodes tell the last renewal -/

/-- An entry that is renewed gets a new node. -/
theorem lruIt_of_renewed
    {entry : Entry}
    (renewed : renewedHit cache operation = some key)
    (after : entryAfter cache key (cache.hits.lookup key) operation = some entry) :
    entry.lruIt = cache.hitLru.nextNode := by
  cases operation with
  | commitRefresh kid reservationId keys nowS jwksUri =>
      obtain ⟨accepted, key_eq⟩ := Option.ite_none_right_eq_some.mp renewed
      obtain rfl := Option.some.inj key_eq
      obtain ⟨hit, found, accepts⟩ := (Option.any_eq_true _ _).mp accepted
      have stored : cache.hits.lookup (cacheKey jwksUri kid) = some hit := found
      rw [entryAfter, if_pos rfl, stored, Option.map_some, if_pos accepts] at after
      rw [← Option.some.inj after]
  | onFetchSuccess kid keys nowS jwksUri =>
      obtain ⟨nonempty, key_eq⟩ := Option.ite_none_left_eq_some.mp renewed
      obtain rfl := Option.some.inj key_eq
      rw [entryAfter, if_pos ⟨rfl, nonempty⟩] at after
      rw [← Option.some.inj after]
      cases cache.hits.lookup (cacheKey jwksUri kid) <;> rfl
  | onPassiveFetchSuccess kid keys nowS jwksUri =>
      obtain ⟨isNew, key_eq⟩ := Option.ite_none_left_eq_some.mp renewed
      obtain rfl := Option.some.inj key_eq
      rw [not_or, Option.not_isSome_iff_eq_none] at isNew
      have absent : cache.hits.lookup (cacheKey jwksUri kid) = none := isNew.2
      rw [entryAfter, if_pos ⟨rfl, isNew.1⟩, absent] at after
      rw [← Option.some.inj after]
      rfl
  | _ => cases renewed

/-- An entry that is not renewed keeps its node. -/
theorem lruIt_of_notRenewed
    {entry : Entry}
    (notRenewed : renewedHit cache operation ≠ some key)
    (after : entryAfter cache key (cache.hits.lookup key) operation = some entry) :
    ∃ hit, cache.hits.lookup key = some hit ∧ hit.lruIt = entry.lruIt := by
  have successor := successor_of_entryAfter after
  generalize found : cache.hits.lookup key = previous at successor
  cases successor with
  | untouched operation => exact ⟨entry, rfl, rfl⟩
  | @reserved _ _ _ hit isKey isDue => exact ⟨hit, rfl, rfl⟩
  | @committed kid jwksUri _ _ _ hit isKey accepts =>
      have stored : cache.findHit jwksUri kid = some hit := by rw [findHit, ← isKey, found]
      exact absurd (by simp [renewedHit, stored, accepts, isKey]) notRenewed
  | @marked _ _ _ _ hit isKey counts => exact ⟨hit, rfl, rfl⟩
  | reconciled presentKids jwksUri excludeKid hit =>
      exact ⟨hit, rfl, (countAbsence_lruIt _ hit).symm⟩
  | stored isKey nonempty =>
      exact absurd (by simp [renewedHit, nonempty, isKey]) notRenewed
  | @extended kid jwksUri _ _ _ isKey nonempty =>
      cases previous with
      | none =>
          have absent : cache.findHit jwksUri kid = none := by rw [findHit, ← isKey, found]
          exact absurd (by simp [renewedHit, nonempty, absent, isKey]) notRenewed
      | some hit => exact ⟨hit, rfl, rfl⟩

/-- An entry gets a new node exactly when it is renewed. -/
theorem lruIt_entryAfter
    {entry : Entry}
    (after : entryAfter cache key (cache.hits.lookup key) operation = some entry) :
    renewedHit cache operation = some key ∧ entry.lruIt = cache.hitLru.nextNode ∨
      renewedHit cache operation ≠ some key ∧
        ∃ hit, cache.hits.lookup key = some hit ∧ hit.lruIt = entry.lruIt := by
  by_cases renewed : renewedHit cache operation = some key
  · exact .inl ⟨renewed, lruIt_of_renewed renewed after⟩
  · exact .inr ⟨renewed, lruIt_of_notRenewed renewed after⟩

/-- A miss gets a new node exactly when it is recorded. -/
theorem lruIt_missAfter
    {miss : MissEntry}
    (after : missAfter cache key (cache.misses.lookup key) operation = some miss) :
    renewedMiss cache operation = some key ∧ miss.lruIt = cache.missLru.nextNode ∨
      renewedMiss cache operation ≠ some key ∧
        ∃ old, cache.misses.lookup key = some old ∧ old.lruIt = miss.lruIt := by
  cases operation with
  | onFetchMiss kid nowS jwksUri =>
      rw [missAfter] at after
      split at after
      · next isKey =>
          left
          rw [← Option.some.inj after]
          exact ⟨congrArg some isKey.symm, rfl⟩
      · next isOther =>
          exact .inr ⟨fun same => isOther (Option.some.inj same).symm, miss, after, rfl⟩
  | onFetchSuccess kid keys nowS jwksUri =>
      rw [missAfter, Option.ite_none_left_eq_some] at after
      exact .inr ⟨by simp [renewedMiss], miss, after.2, rfl⟩
  | onPassiveFetchSuccess kid keys nowS jwksUri =>
      rw [missAfter, Option.ite_none_left_eq_some] at after
      exact .inr ⟨by simp [renewedMiss], miss, after.2, rfl⟩
  | tryReserveRefresh kid nowS jwksUri =>
      exact .inr ⟨by simp [renewedMiss], miss, after, rfl⟩
  | commitRefresh kid reservationId keys nowS jwksUri =>
      exact .inr ⟨by simp [renewedMiss], miss, after, rfl⟩
  | recordKidAbsent kid reservationId nowS jwksUri =>
      exact .inr ⟨by simp [renewedMiss], miss, after, rfl⟩
  | reconcileAbsentKids presentKids jwksUri excludeKid =>
      exact .inr ⟨by simp [renewedMiss], miss, after, rfl⟩
  | recordJwksFetch nowS => exact .inr ⟨by simp [renewedMiss], miss, after, rfl⟩
  | recordJwksFetchSuccess nowS jwksUri =>
      exact .inr ⟨by simp [renewedMiss], miss, after, rfl⟩
  | incrementThrottledRefreshes isBudget nowS =>
      exact .inr ⟨by simp [renewedMiss], miss, after, rfl⟩
  | setLastRefreshReason reason => exact .inr ⟨by simp [renewedMiss], miss, after, rfl⟩

variable {operations before : List Operation} {minRefreshS : Int} {maxEntries : Nat}
variable {newer older : String}

/-- Of two cached kids, the one with the newer node was renewed since the other was. -/
theorem since_of_lruIt_lt
    {newerHit olderHit : Entry}
    (newerStored : ((create minRefreshS maxEntries).applyAll operations).hits.lookup newer =
      some newerHit)
    (olderStored : ((create minRefreshS maxEntries).applyAll operations).hits.lookup older =
      some olderHit)
    (later : olderHit.lruIt < newerHit.lruIt) :
    Machine.Since apply (fun cache operation => renewedHit cache operation = some newer)
      (fun cache operation => renewedHit cache operation ≠ some older)
      (create minRefreshS maxEntries) operations := by
  have preserved : ∀ cache operation, Consistent cache → Consistent (cache.apply operation) :=
    fun cache operation consistent => (apply_applied consistent operation).consistent
  refine Machine.since_of_stamp_lt apply
    (fun cache key => (cache.hits.lookup key).map Entry.lruIt)
    (fun cache => cache.hitLru.nextNode) renewedHit preserved ?_ ?_
    (create_consistent minRefreshS maxEntries) (fun _ => rfl)
    (by rw [newerStored]; rfl) (by rw [olderStored]; rfl) later
  · intro cache key stamp consistent stamped
    obtain ⟨hit, stored, rfl⟩ := Option.map_eq_some_iff.mp stamped
    exact consistent.hits.node_lt stored
  · intro cache operation key stamp consistent stamped
    obtain ⟨entry, stored, rfl⟩ := Option.map_eq_some_iff.mp stamped
    rw [(apply_applied consistent operation).lookup_hits,
      Option.ite_none_left_eq_some] at stored
    rcases lruIt_entryAfter stored.2 with renewed | ⟨notRenewed, hit, found, same⟩
    · exact .inl renewed
    · exact .inr ⟨notRenewed, by simp [found, same]⟩

/-- Of two recorded misses, the one with the newer node was recorded since the other
was. -/
theorem since_of_miss_lruIt_lt
    {newerMiss olderMiss : MissEntry}
    (newerStored : ((create minRefreshS maxEntries).applyAll operations).misses.lookup newer =
      some newerMiss)
    (olderStored : ((create minRefreshS maxEntries).applyAll operations).misses.lookup older =
      some olderMiss)
    (later : olderMiss.lruIt < newerMiss.lruIt) :
    Machine.Since apply (fun cache operation => renewedMiss cache operation = some newer)
      (fun cache operation => renewedMiss cache operation ≠ some older)
      (create minRefreshS maxEntries) operations := by
  have preserved : ∀ cache operation, Consistent cache → Consistent (cache.apply operation) :=
    fun cache operation consistent => (apply_applied consistent operation).consistent
  refine Machine.since_of_stamp_lt apply
    (fun cache key => (cache.misses.lookup key).map MissEntry.lruIt)
    (fun cache => cache.missLru.nextNode) renewedMiss preserved ?_ ?_
    (create_consistent minRefreshS maxEntries) (fun _ => rfl)
    (by rw [newerStored]; rfl) (by rw [olderStored]; rfl) later
  · intro cache key stamp consistent stamped
    obtain ⟨miss, stored, rfl⟩ := Option.map_eq_some_iff.mp stamped
    exact consistent.misses.node_lt stored
  · intro cache operation key stamp consistent stamped
    obtain ⟨miss, stored, rfl⟩ := Option.map_eq_some_iff.mp stamped
    rw [(apply_applied consistent operation).lookup_misses,
      Option.ite_none_left_eq_some] at stored
    rcases lruIt_missAfter stored.2 with renewed | ⟨notRenewed, old, found, same⟩
    · exact .inl renewed
    · exact .inr ⟨notRenewed, by simp [found, same]⟩

/-! ## Insertions that overflow -/

/-- An insertion costs one key, the one that was renewed longest ago, and nothing else. -/
structure DropsOldest
    {Value : Type}
    (stored : JwksCache → UnorderedMap String Value)
    (renewed : JwksCache → Operation → Option String)
    (start : JwksCache)
    (before : List Operation)
    (operation : Operation)
    (victim : String) : Prop where
  present : ((stored (start.applyAll before)).lookup victim).isSome = true
  dropped : (stored ((start.applyAll before).apply operation)).lookup victim = none
  inserted : ∃ key, renewed (start.applyAll before) operation = some key ∧
    ((stored ((start.applyAll before).apply operation)).lookup key).isSome = true
  others : ∀ key ≠ victim, renewed (start.applyAll before) operation ≠ some key →
    (stored ((start.applyAll before).apply operation)).lookup key =
      (stored (start.applyAll before)).lookup key
  oldest : ∀ key ≠ victim, ((stored (start.applyAll before)).lookup key).isSome = true →
    Machine.Since apply (fun cache operation => renewed cache operation = some key)
      (fun cache operation => renewed cache operation ≠ some victim) start before

/-- What a full map drops is the key at the back of its list. -/
theorem victim_of_full
    {Value : Type}
    {node : Value → Nat}
    {lru : LinkedList String}
    {map : UnorderedMap String Value}
    {limit : Nat}
    (indexed : Lru.Indexed node lru map)
    (room : 0 < limit)
    (full : limit ≤ map.size) :
    ∃ victim value, Lru.victim limit lru map = some victim ∧ lru.back? = some victim ∧
      map.lookup victim = some value := by
  have nonempty : lru.values ≠ [] := by
    apply List.ne_nil_of_length_pos
    rw [indexed.length_values]
    omega
  have isLast : lru.back? = some (lru.values.getLast nonempty) := by
    rw [Lru.back?_eq_getLast?, List.getLast?_eq_some_getLast nonempty]
  have leaves : Lru.victim limit lru map = some (lru.values.getLast nonempty) := by
    rw [Lru.victim, if_neg (Nat.not_lt_of_le full), isLast]
  obtain ⟨value, stored⟩ := Option.isSome_iff_exists.mp (indexed.isSome_lookup_of_victim leaves)
  exact ⟨_, value, leaves, isLast, stored⟩

theorem applyAll_newestFirst
    (operations : List Operation)
    (sorted : NewestFirst cache) :
    NewestFirst (cache.applyAll operations) := by
  apply Machine.run_invariant apply _ operations sorted
  intro state operation holds
  exact apply_newestFirst holds operation

/-- What the insertion of a new kid stores, and what it leaves of the others. -/
theorem entryAfter_of_overflows
    (overflows : Overflows cache operation) :
    ∃ added, renewedHit cache operation = some added ∧ cache.hits.lookup added = none ∧
      droppedHit cache operation = cache.hitVictim ∧
      (entryAfter cache added (cache.hits.lookup added) operation).isSome = true ∧
      ∀ key ≠ added,
        entryAfter cache key (cache.hits.lookup key) operation = cache.hits.lookup key := by
  cases operation with
  | onFetchSuccess kid keys nowS jwksUri =>
      obtain ⟨nonempty, absent, -⟩ := overflows
      refine ⟨cacheKey jwksUri kid, if_neg nonempty, absent, ?_, ?_, ?_⟩
      · simp [droppedHit, nonempty, absent]
      · simp [entryAfter, nonempty]
      · intro key isOther
        simp [entryAfter, isOther]
  | onPassiveFetchSuccess kid keys nowS jwksUri =>
      obtain ⟨nonempty, absent, -⟩ := overflows
      refine ⟨cacheKey jwksUri kid, ?_, absent, ?_, ?_, ?_⟩
      · simp [renewedHit, nonempty, absent]
      · simp [droppedHit, nonempty, absent]
      · simp [entryAfter, nonempty]
      · intro key isOther
        simp [entryAfter, isOther]
  | _ => cases overflows

/-- The insertion of a kid into a full cache drops the kid that was created or committed
longest ago. -/
theorem overflow_dropsOldest
    (overflows : Overflows ((create minRefreshS maxEntries).applyAll before) operation) :
    ∃ victim, DropsOldest JwksCache.hits renewedHit (create minRefreshS maxEntries) before
      operation victim := by
  have consistent := applyAll_consistent before (create_consistent minRefreshS maxEntries)
  have sorted := applyAll_newestFirst before (create_newestFirst minRefreshS maxEntries)
  obtain ⟨added, renews, absent, drops, stores, leaves⟩ :=
    entryAfter_of_overflows overflows
  have full : ((create minRefreshS maxEntries).applyAll before).maxEntries.1 ≤
      UnorderedMap.size ((create minRefreshS maxEntries).applyAll before).hits := by
    cases operation <;> first | exact overflows.2.2 | cases overflows
  obtain ⟨victim, entry, isVictim, isLast, stored⟩ := victim_of_full consistent.hits
    ((create minRefreshS maxEntries).applyAll before).maxEntries.2 full
  have applied := apply_applied consistent operation
  have notAdded : added ≠ victim := by
    rintro rfl
    rw [absent] at stored
    cases stored
  have lookup_eq := applied.lookup_hits
  rw [drops, hitVictim, isVictim] at lookup_eq
  refine ⟨victim, ⟨by rw [stored]; rfl, ?_, ⟨added, renews, ?_⟩, ?_, ?_⟩⟩
  · rw [lookup_eq, if_pos rfl]
  · rw [lookup_eq, if_neg (fun same => notAdded (Option.some.inj same).symm)]
    exact stores
  · intro key notVictim notRenewed
    rw [lookup_eq, if_neg (fun same => notVictim (Option.some.inj same).symm)]
    apply leaves
    rintro rfl
    exact notRenewed renews
  · intro key notVictim isStored
    obtain ⟨hit, found⟩ := Option.isSome_iff_exists.mp isStored
    exact since_of_lruIt_lt found stored
      (sorted.hits.lt_of_back? consistent.hits isLast stored found notVictim)

/-- A new miss, when all are taken, drops the one that was recorded longest ago. -/
theorem overflowMisses_dropsOldest
    (overflows : OverflowsMisses ((create minRefreshS maxEntries).applyAll before) operation) :
    ∃ victim, DropsOldest JwksCache.misses renewedMiss (create minRefreshS maxEntries) before
      operation victim := by
  have consistent := applyAll_consistent before (create_consistent minRefreshS maxEntries)
  have sorted := applyAll_newestFirst before (create_newestFirst minRefreshS maxEntries)
  cases operation with
  | onFetchMiss kid nowS jwksUri =>
      obtain ⟨absent, full⟩ := overflows
      obtain ⟨victim, miss, isVictim, isLast, stored⟩ := victim_of_full consistent.misses
        ((create minRefreshS maxEntries).applyAll before).maxEntries.2 full
      have lookup_eq := (apply_applied consistent
        (.onFetchMiss kid nowS jwksUri)).lookup_misses
      have notAdded : cacheKey jwksUri kid ≠ victim := by
        rintro rfl
        rw [findMiss, stored] at absent
        cases absent
      have drops : droppedMiss ((create minRefreshS maxEntries).applyAll before)
          (.onFetchMiss kid nowS jwksUri) = some victim := by
        simp [droppedMiss, absent, missVictim, isVictim]
      rw [drops] at lookup_eq
      refine ⟨victim, ⟨by rw [stored]; rfl, ?_, ⟨cacheKey jwksUri kid, rfl, ?_⟩, ?_, ?_⟩⟩
      · rw [lookup_eq, if_pos rfl]
      · rw [lookup_eq, if_neg (fun same => notAdded (Option.some.inj same).symm)]
        simp [missAfter]
      · intro key notVictim notRenewed
        rw [lookup_eq, if_neg (fun same => notVictim (Option.some.inj same).symm), missAfter,
          if_neg]
        rintro rfl
        exact notRenewed rfl
      · intro key notVictim isStored
        obtain ⟨other, found⟩ := Option.isSome_iff_exists.mp isStored
        exact since_of_miss_lruIt_lt found stored
          (sorted.misses.lt_of_back? consistent.misses isLast stored found notVictim)
  | _ => cases overflows

end JwksCache
end Jwks
end QuackOauth
