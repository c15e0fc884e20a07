import QuackOauth.Jwks.Cache

/-!
# What cache operations do to stored entries

Every operation of the cache is described by one relation between the cache before
and after it.  Reservation ids only grow; a stored entry waits for no refresh, for
one reserved since, or for the one it waited for already; and each of its keys was
stored before or has just been published.  The relation composes, so a whole
validation, and a run of validations, is described by it too.
-/

namespace QuackOauth
namespace Jwks

open Lib

/-- A stored entry, compared with what was stored under its key before. -/
structure EntryFollows
    (publishes : Jwk → Prop)
    (nextReservationId : Nat)
    (earlier : Option Entry)
    (entry : Entry) : Prop where
  reservation :
    entry.currentReservationId = 0 ∨
      nextReservationId ≤ entry.currentReservationId ∨
      ∃ previous, earlier = some previous ∧
        previous.currentReservationId = entry.currentReservationId
  keys : ∀ jwk ∈ entry.keys,
    publishes jwk ∨ ∃ previous, earlier = some previous ∧ jwk ∈ previous.keys

namespace EntryFollows

variable {publishes : Jwk → Prop} {next : Nat}

theorem refl (entry : Entry) :
    EntryFollows publishes next (some entry) entry where
  reservation := .inr (.inr ⟨entry, rfl, rfl⟩)
  keys := fun _ member => .inr ⟨entry, rfl, member⟩

/-- An entry that waits for no refresh needs its keys checked only. -/
theorem of_released
    {earlier : Option Entry}
    {entry : Entry}
    (released : entry.currentReservationId = 0)
    (keys : ∀ jwk ∈ entry.keys,
      publishes jwk ∨ ∃ previous, earlier = some previous ∧ jwk ∈ previous.keys) :
    EntryFollows publishes next earlier entry :=
  ⟨.inl released, keys⟩

/-- An entry that keeps its reservation needs its keys checked only. -/
theorem of_kept
    {previous entry : Entry}
    (kept : entry.currentReservationId = previous.currentReservationId)
    (keys : ∀ jwk ∈ entry.keys, publishes jwk ∨ jwk ∈ previous.keys) :
    EntryFollows publishes next (some previous) entry where
  reservation := .inr (.inr ⟨previous, rfl, kept.symm⟩)
  keys := fun jwk member => (keys jwk member).imp_right fun old => ⟨previous, rfl, old⟩

theorem mono
    {larger : Jwk → Prop}
    {earlier : Option Entry}
    {entry : Entry}
    (included : ∀ jwk, publishes jwk → larger jwk)
    (follows : EntryFollows publishes next earlier entry) :
    EntryFollows larger next earlier entry where
  reservation := follows.reservation
  keys := fun jwk member => (follows.keys jwk member).imp_left (included jwk)

end EntryFollows

/-- One cache may follow another while the listed keys are published. -/
structure Evolves
    (publishes : String → Jwk → Prop)
    (before after : JwksCache) : Prop where
  next_le : before.nextReservationId ≤ after.nextReservationId
  entries : ∀ key entry, after.hits.lookup key = some entry →
    EntryFollows (publishes key) before.nextReservationId
      (before.hits.lookup key) entry

/-- Nothing is published. -/
def publishesNothing (_key : String) (_jwk : Jwk) : Prop := False

namespace Evolves

variable {publishes : String → Jwk → Prop} {before middle after : JwksCache}

/-- Entries that were stored before, under the same key, need no check. -/
theorem of_stored
    (next_le : before.nextReservationId ≤ after.nextReservationId)
    (stored : ∀ key entry, after.hits.lookup key = some entry →
      before.hits.lookup key = some entry) :
    Evolves publishes before after where
  next_le := next_le
  entries := by
    intro key entry present
    rw [stored key entry present]
    exact EntryFollows.refl entry

theorem of_hits_eq
    (next_eq : after.nextReservationId = before.nextReservationId)
    (hits_eq : after.hits = before.hits) :
    Evolves publishes before after :=
  of_stored (le_of_eq next_eq.symm) fun key entry present => by
    rwa [hits_eq] at present

theorem refl (cache : JwksCache) : Evolves publishes cache cache :=
  of_hits_eq rfl rfl

/-- Storing one entry. -/
theorem of_insert
    {key : String}
    {entry : Entry}
    (next_le : before.nextReservationId ≤ after.nextReservationId)
    (hits_eq : after.hits = before.hits.insert key entry)
    (follows : EntryFollows (publishes key) before.nextReservationId
      (before.hits.lookup key) entry) :
    Evolves publishes before after where
  next_le := next_le
  entries := by
    intro key' entry' present
    rw [hits_eq, UnorderedMap.lookup_insert_eq_ite] at present
    split at present
    · next sameKey =>
        cases present
        rw [sameKey]
        exact follows
    · rw [present]
      exact EntryFollows.refl entry'

theorem trans
    (first : Evolves publishes before middle)
    (second : Evolves publishes middle after) :
    Evolves publishes before after where
  next_le := le_trans first.next_le second.next_le
  entries := by
    intro key entry present
    obtain ⟨reservation, keys⟩ := second.entries key entry present
    refine ⟨?_, ?_⟩
    · rcases reservation with released | fresh | ⟨previous, stored, same⟩
      · exact .inl released
      · exact .inr (.inl (le_trans first.next_le fresh))
      · rw [← same]
        exact (first.entries key previous stored).reservation
    · intro jwk member
      rcases keys jwk member with published | ⟨previous, stored, member⟩
      · exact .inl published
      · exact (first.entries key previous stored).keys jwk member

theorem mono
    {larger : String → Jwk → Prop}
    (included : ∀ key jwk, publishes key jwk → larger key jwk)
    (evolves : Evolves publishes before after) :
    Evolves larger before after where
  next_le := evolves.next_le
  entries := fun key entry present =>
    (evolves.entries key entry present).mono (included key)

theorem of_nothing
    (evolves : Evolves publishesNothing before after) :
    Evolves publishes before after :=
  evolves.mono fun _ _ nothing => nothing.elim

/-- What holds of the published keys and of the cached ones holds of the cached ones
afterwards. -/
theorem forall_keys
    {publishes : String → Jwk → Prop}
    {before after : JwksCache}
    {holds : String → Jwk → Prop}
    (evolves : Evolves publishes before after)
    (published : ∀ key k, publishes key k → holds key k)
    (cached : ∀ key hit, before.hits.lookup key = some hit → ∀ k ∈ hit.keys, holds key k) :
    ∀ key hit, after.hits.lookup key = some hit → ∀ k ∈ hit.keys, holds key k := by
  intro key hit stored k member
  rcases (evolves.entries key hit stored).keys k member with new | ⟨previous, present, old⟩
  · exact published key k new
  · exact cached key previous present k old

/-- A list of steps that each evolve the cache evolves it. -/
theorem foldl
    {Step : Type*}
    {apply : JwksCache → Step → JwksCache}
    (steps : List Step)
    (each : ∀ cache, ∀ step ∈ steps, Evolves publishes cache (apply cache step))
    (cache : JwksCache) :
    Evolves publishes cache (steps.foldl apply cache) := by
  induction steps generalizing cache with
  | nil => exact refl cache
  | cons step steps inductionHypothesis =>
      refine (each cache step List.mem_cons_self).trans ?_
      exact inductionHypothesis
        (fun cache other member => each cache other (List.mem_cons_of_mem _ member)) _

/-- A reservation that no entry waits for, and that was issued, stays without effect. -/
theorem reservation_ne
    {key : String}
    {reservationId : Nat}
    (evolves : Evolves publishes before after)
    (granted : reservationId ≠ 0)
    (issued : reservationId < before.nextReservationId)
    (unawaited : ∀ entry, before.hits.lookup key = some entry →
      entry.currentReservationId ≠ reservationId) :
    ∀ entry, after.hits.lookup key = some entry →
      entry.currentReservationId ≠ reservationId := by
  intro entry present same
  rcases (evolves.entries key entry present).reservation with
    released | fresh | ⟨previous, stored, kept⟩
  · exact granted (same.symm.trans released)
  · omega
  · exact unawaited previous stored (kept.trans same)

end Evolves

namespace JwksCache

/-! ## The operations -/

theorem evictHits_stored
    {limit fuel : Nat}
    {lru : LinkedList String}
    {hits : UnorderedMap String Entry}
    {key : String}
    {entry : Entry}
    (present : (evictHits limit fuel lru hits).2.lookup key = some entry) :
    hits.lookup key = some entry := by
  induction fuel generalizing lru hits with
  | zero => exact present
  | succ fuel inductionHypothesis =>
      unfold evictHits at present
      split at present
      · split at present
        · exact present
        · have kept := inductionHypothesis present
          rw [UnorderedMap.lookup_erase_eq_ite] at kept
          split at kept
          · cases kept
          · exact kept
      · exact present

theorem trimToCap_subset (keys : List Jwk) : trimToCap keys ⊆ keys := by
  unfold trimToCap
  split
  · exact List.take_subset _ _
  · exact List.Subset.refl keys

theorem mem_of_mem_unionKeys
    {existing keys : List Jwk}
    {jwk : Jwk}
    (member : jwk ∈ unionKeys existing keys) :
    jwk ∈ existing ∨ jwk ∈ keys := by
  induction keys generalizing existing with
  | nil => exact .inl member
  | cons key rest inductionHypothesis =>
      unfold unionKeys at member
      split at member
      · exact (inductionHypothesis member).imp_right (List.mem_cons_of_mem _)
      · rcases inductionHypothesis member with old | new
        · rcases List.mem_append.mp old with old | added
          · exact .inl old
          · exact .inr (List.mem_cons.mpr (.inl (List.mem_singleton.mp added)))
        · exact .inr (List.mem_cons_of_mem _ new)

@[simp] theorem hits_recordJwksFetchSuccess
    (nowS : Int)
    (jwksUri : String)
    (cache : JwksCache) :
    (recordJwksFetchSuccess nowS jwksUri cache).hits = cache.hits := by
  unfold recordJwksFetchSuccess
  split <;> rfl

@[simp] theorem nextReservationId_recordJwksFetchSuccess
    (nowS : Int)
    (jwksUri : String)
    (cache : JwksCache) :
    (recordJwksFetchSuccess nowS jwksUri cache).nextReservationId =
      cache.nextReservationId := by
  unfold recordJwksFetchSuccess
  split <;> rfl

@[simp] theorem hits_recordJwksFetch (nowS : Int) (cache : JwksCache) :
    (recordJwksFetch nowS cache).hits = cache.hits := by
  unfold recordJwksFetch
  split <;> rfl

@[simp] theorem nextReservationId_recordJwksFetch (nowS : Int) (cache : JwksCache) :
    (recordJwksFetch nowS cache).nextReservationId = cache.nextReservationId := by
  unfold recordJwksFetch
  split <;> rfl

@[simp] theorem hits_dropMiss (key : String) (cache : JwksCache) :
    (dropMiss key cache).hits = cache.hits := by
  unfold dropMiss
  split <;> rfl

@[simp] theorem nextReservationId_dropMiss (key : String) (cache : JwksCache) :
    (dropMiss key cache).nextReservationId = cache.nextReservationId := by
  unfold dropMiss
  split <;> rfl

/-- The listed keys are published for one kid of one issuer. -/
def publishesFor
    (jwksUri kid : String)
    (keys : List Jwk)
    (key : String)
    (jwk : Jwk) : Prop :=
  key = cacheKey jwksUri kid ∧ jwk ∈ keys

theorem onFetchSuccess_evolves
    (kid : String)
    (keys : List Jwk)
    (nowS : Int)
    (jwksUri : String)
    (cache : JwksCache) :
    Evolves (publishesFor jwksUri kid keys) cache
      (onFetchSuccess kid keys nowS jwksUri cache) := by
  unfold onFetchSuccess
  split
  · exact Evolves.refl cache
  · simp only [hits_dropMiss, hits_recordJwksFetchSuccess]
    split
    · next hit found =>
        refine Evolves.of_insert (by simp) rfl ?_
        refine ⟨?_, fun jwk member => .inl ⟨rfl, trimToCap_subset keys member⟩⟩
        dsimp only
        split
        · exact .inr (.inr ⟨hit, found, rfl⟩)
        · exact .inl rfl
    · refine ⟨by simp, ?_⟩
      intro key entry present
      have stored := evictHits_stored present
      rw [UnorderedMap.lookup_insert_eq_ite] at stored
      split at stored
      · next sameKey =>
          cases stored
          exact EntryFollows.of_released rfl fun jwk member =>
            .inl ⟨sameKey, trimToCap_subset keys member⟩
      · rw [stored]
        exact EntryFollows.refl entry

theorem onPassiveFetchSuccess_evolves
    (kid : String)
    (keys : List Jwk)
    (nowS : Int)
    (jwksUri : String)
    (cache : JwksCache) :
    Evolves (publishesFor jwksUri kid keys) cache
      (onPassiveFetchSuccess kid keys nowS jwksUri cache) := by
  unfold onPassiveFetchSuccess
  split
  · exact Evolves.refl cache
  · split
    · next hit found =>
        refine Evolves.of_insert (le_refl _) rfl ?_
        have found : cache.hits.lookup (cacheKey jwksUri kid) = some hit := found
        rw [found]
        refine EntryFollows.of_kept rfl fun jwk member => ?_
        have united := List.mem_of_mem_drop member
        exact (mem_of_mem_unionKeys united).symm.imp_left fun new => ⟨rfl, new⟩
    · exact onFetchSuccess_evolves kid keys nowS jwksUri cache

theorem countAbsence_keys (presence : Option Bool) (entry : Entry) :
    (countAbsence presence entry).keys = entry.keys := by
  unfold countAbsence
  split <;> rfl

theorem countAbsence_currentReservationId (presence : Option Bool) (entry : Entry) :
    (countAbsence presence entry).currentReservationId =
      entry.currentReservationId := by
  unfold countAbsence
  split <;> rfl

theorem reconcileAbsentKids_evolves
    (presentKids : List String)
    (jwksUri excludeKid : String)
    (cache : JwksCache) :
    Evolves publishesNothing cache
      (reconcileAbsentKids presentKids jwksUri excludeKid cache) := by
  refine ⟨le_refl _, ?_⟩
  intro key entry present
  simp only [reconcileAbsentKids, UnorderedMap.lookup_filter,
    UnorderedMap.lookup_mapEntries, Option.filter_eq_some_iff,
    Option.map_eq_some_iff] at present
  obtain ⟨⟨previous, stored, rfl⟩, -⟩ := present
  rw [stored]
  refine EntryFollows.of_kept (countAbsence_currentReservationId _ previous) ?_
  intro jwk member
  rw [countAbsence_keys] at member
  exact .inr member

theorem recordKidAbsent_evolves
    (kid : String)
    (reservationId : Nat)
    (nowS : Int)
    (jwksUri : String)
    (cache : JwksCache) :
    Evolves publishesNothing cache
      (recordKidAbsent kid reservationId nowS jwksUri cache).2 := by
  unfold recordKidAbsent
  split
  · exact Evolves.refl cache
  · next hit found =>
      have found : cache.hits.lookup (cacheKey jwksUri kid) = some hit := found
      split
      · exact Evolves.refl cache
      · dsimp only
        split
        · refine Evolves.of_stored (le_refl _) fun key entry present => ?_
          rw [UnorderedMap.lookup_erase_eq_ite] at present
          split at present
          · cases present
          · exact present
        · refine Evolves.of_insert (le_refl _) rfl ?_
          refine EntryFollows.of_released rfl fun jwk member => ?_
          exact .inr ⟨hit, found, member⟩

theorem onFetchMiss_evolves
    (kid : String)
    (nowS : Int)
    (jwksUri : String)
    (cache : JwksCache) :
    Evolves publishesNothing cache (onFetchMiss kid nowS jwksUri cache) :=
  Evolves.of_hits_eq (by simp [onFetchMiss]) (by simp [onFetchMiss])

theorem tryReserveRefresh_evolves
    (kid : String)
    (nowS : Int)
    (jwksUri : String)
    (cache : JwksCache) :
    Evolves publishesNothing cache
      (tryReserveRefresh kid nowS jwksUri cache).2 := by
  have granted : ∀ hit, cache.findHit jwksUri kid = some hit →
      Evolves publishesNothing cache
        (grantReservation (cacheKey jwksUri kid) hit nowS cache).2 := by
    intro hit found
    refine Evolves.of_insert (Nat.le_succ _) rfl ?_
    exact ⟨.inr (.inl (le_refl _)), fun jwk member => .inr ⟨hit, found, member⟩⟩
  unfold tryReserveRefresh
  split
  · exact Evolves.refl cache
  · next hit found =>
      split
      · exact granted hit found
      · exact Evolves.refl cache
      · split
        · exact Evolves.refl cache
        · exact granted hit found

theorem commitRefresh_evolves
    (kid : String)
    (reservationId : Nat)
    (keys : List Jwk)
    (nowS : Int)
    (jwksUri : String)
    (cache : JwksCache) :
    Evolves (publishesFor jwksUri kid keys) cache
      (commitRefresh kid reservationId keys nowS jwksUri cache).2 := by
  unfold commitRefresh
  split
  · exact Evolves.refl cache
  · split
    · exact Evolves.refl cache
    · split
      · exact Evolves.refl cache
      · split
        · exact Evolves.refl cache
        · refine Evolves.of_insert (le_refl _) rfl ?_
          refine EntryFollows.of_released rfl fun jwk member => ?_
          exact .inl ⟨rfl, trimToCap_subset keys member⟩

/-! ## Grants and commits -/

/-- A refresh that was granted got the id that was next. -/
theorem tryReserveRefresh_granted
    {kid : String}
    {nowS : Int}
    {jwksUri : String}
    {cache : JwksCache}
    (granted : (tryReserveRefresh kid nowS jwksUri cache).1 ≠ 0) :
    (tryReserveRefresh kid nowS jwksUri cache).1 = cache.nextReservationId ∧
      (tryReserveRefresh kid nowS jwksUri cache).2.nextReservationId =
        cache.nextReservationId + 1 := by
  unfold tryReserveRefresh at granted ⊢
  split
  · simp_all
  · split
    · exact ⟨rfl, rfl⟩
    · simp_all
    · split
      · simp_all
      · exact ⟨rfl, rfl⟩

/-- A refresh that is refused leaves the cache as it was. -/
theorem tryReserveRefresh_refused
    {kid : String}
    {nowS : Int}
    {jwksUri : String}
    {cache : JwksCache}
    (issuing : 0 < cache.nextReservationId)
    (refused : (tryReserveRefresh kid nowS jwksUri cache).1 = 0) :
    (tryReserveRefresh kid nowS jwksUri cache).2 = cache := by
  unfold tryReserveRefresh at refused ⊢
  split
  · rfl
  · split
    · simp_all [grantReservation]
    · rfl
    · split
      · rfl
      · simp_all [grantReservation]

/-- Everything a commit checks and leaves behind. -/
structure Committed
    (kid : String)
    (reservationId : Nat)
    (keys : List Jwk)
    (nowS : Int)
    (jwksUri : String)
    (before after : JwksCache) : Prop where
  granted : reservationId ≠ 0
  nonempty : keys ≠ []
  awaited : ∃ hit, before.findHit jwksUri kid = some hit ∧
    hit.currentReservationId = reservationId ∧
    relateClock nowS hit.fetchedAtS ≠ .minorRewind
  stored : ∃ hit, after.findHit jwksUri kid = some hit ∧
    hit.keys = trimToCap keys ∧ hit.currentReservationId = 0

theorem commitRefresh_committed
    {kid : String}
    {reservationId : Nat}
    {keys : List Jwk}
    {nowS : Int}
    {jwksUri : String}
    {cache : JwksCache}
    (committed : (commitRefresh kid reservationId keys nowS jwksUri cache).1 = true) :
    Committed kid reservationId keys nowS jwksUri cache
      (commitRefresh kid reservationId keys nowS jwksUri cache).2 := by
  unfold commitRefresh at committed ⊢
  split at committed
  · cases committed
  · next permitted =>
      rw [not_or] at permitted
      split at committed
      · cases committed
      · next hit found =>
          split at committed
          · cases committed
          · next awaited =>
              split at committed
              · cases committed
              · next notRewound =>
                  rw [if_neg (by simpa using permitted)]
                  simp only [if_neg awaited, if_neg notRewound]
                  refine ⟨permitted.1, permitted.2,
                    ⟨hit, found, not_not.mp awaited, notRewound⟩, ?_⟩
                  exact ⟨_, AList.lookup_insert _, rfl, rfl⟩

/-- A commit that is refused leaves the cache as it was. -/
theorem commitRefresh_superseded
    {kid : String}
    {reservationId : Nat}
    {keys : List Jwk}
    {nowS : Int}
    {jwksUri : String}
    {cache : JwksCache}
    (superseded : (commitRefresh kid reservationId keys nowS jwksUri cache).1 = false) :
    (commitRefresh kid reservationId keys nowS jwksUri cache).2 = cache := by
  unfold commitRefresh at superseded ⊢
  repeat' split
  all_goals first | rfl | simp_all

end JwksCache
end Jwks
end QuackOauth
