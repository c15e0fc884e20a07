import QuackOauth.Validator.Operations

/-!
# Refreshes that fail

What a call changes before its response is known concerns reservations, budgets and
counters.  If the response then holds no key, every cached kid keeps its keys, the
time they were fetched and its absence count.  A document that lists a kid with
unusable keys only costs it no key either.
-/

namespace QuackOauth
namespace Validator

open Lib Jwks Jwt

/-- What must survive a failed refresh. -/
def lastGood (hit : Entry) : List Jwk × Int × Nat :=
  (hit.keys, hit.fetchedAtS, hit.consecutiveAbsentCount)

/-- Two caches hold the same kids with the same last good keys. -/
def SameLastGood (before after : JwksCache) : Prop :=
  ∀ key, (after.hits.lookup key).map lastGood = (before.hits.lookup key).map lastGood

/-- No key is read from a response. -/
def Unread (backend : Backend) : Option Response → Prop
  | none => True
  | some document =>
      document.statusCode ≠ 200 ∨ parseJwksJson backend document.body = []

variable {backend : Backend} {call : Call} {cache before middle after : JwksCache}

namespace SameLastGood

theorem of_hits_eq (hits_eq : after.hits = before.hits) : SameLastGood before after :=
  fun key => by rw [hits_eq]

theorem trans
    (first : SameLastGood before middle)
    (second : SameLastGood middle after) :
    SameLastGood before after :=
  fun key => (second key).trans (first key)

end SameLastGood

/-! ## Before the response -/

theorem tryReserveRefresh_sameLastGood
    (kid : String)
    (nowS : Int)
    (jwksUri : String)
    (cache : JwksCache) :
    SameLastGood cache (cache.tryReserveRefresh kid nowS jwksUri).2 := by
  have granted : ∀ hit, cache.findHit jwksUri kid = some hit →
      SameLastGood cache
        (cache.grantReservation (cacheKey jwksUri kid) hit nowS).2 := by
    intro hit found key
    have found : cache.hits.lookup (cacheKey jwksUri kid) = some hit := found
    rw [JwksCache.grantReservation, UnorderedMap.lookup_insert_eq_ite]
    split
    · next isKey =>
        rw [isKey, found]
        rfl
    · rfl
  unfold JwksCache.tryReserveRefresh
  split
  · exact SameLastGood.of_hits_eq rfl
  · next hit found =>
      split
      · exact granted hit found
      · exact SameLastGood.of_hits_eq rfl
      · split
        · exact SameLastGood.of_hits_eq rfl
        · exact granted hit found

/-- Up to its request a call costs no entry anything. -/
theorem beginValidation_sameLastGood
    (backend : Backend)
    (call : Call)
    (cache : JwksCache) :
    SameLastGood cache (beginValidation backend call cache).cache := by
  have begun := beginValidation_begun backend call cache
  generalize beginValidation backend call cache = progress at begun
  cases begun with
  | refused => exact SameLastGood.of_hits_eq rfl
  | cached => exact SameLastGood.of_hits_eq rfl
  | budgetThrottled => exact SameLastGood.of_hits_eq rfl
  | reserveThrottled parsed =>
      exact tryReserveRefresh_sameLastGood parsed.kid call.opts.nowS call.jwksUri cache
  | refreshing parsed =>
      refine SameLastGood.trans
        (tryReserveRefresh_sameLastGood parsed.kid call.opts.nowS call.jwksUri cache) ?_
      exact SameLastGood.of_hits_eq (JwksCache.hits_recordJwksFetch _ _)
  | coldThrottled => exact SameLastGood.of_hits_eq rfl
  | cold => exact SameLastGood.of_hits_eq (JwksCache.hits_recordJwksFetch _ _)

/-! ## After a response without keys -/

theorem readResponse_of_unread
    {response : Option Response}
    (unread : Unread backend response) :
    readResponse backend response = .failed ∨ readResponse backend response = .noKeys := by
  cases response with
  | none => exact .inl rfl
  | some document =>
      unfold readResponse
      dsimp only
      split
      · exact .inl rfl
      · next isOk =>
          rcases unread with failed | empty
          · exact absurd failed isOk
          · rw [empty]
            exact .inr rfl

theorem finishValidation_sameLastGood
    {response : Option Response}
    (unread : Unread backend response)
    (parked : Parked)
    (order : IterationOrder String (List Jwk))
    (cache : JwksCache) :
    SameLastGood cache (finishValidation backend parked response order cache).cache := by
  rw [finishValidation_cache, finishOperations]
  apply SameLastGood.of_hits_eq
  cases parked.route with
  | refresh reservationId cachedResult =>
      rcases readResponse_of_unread unread with failed | noKeys
      · simp only [refreshOperations, failed]
        rfl
      · simp only [refreshOperations, noKeys]
        rfl
  | cold =>
      rcases readResponse_of_unread unread with failed | noKeys
      · simp only [coldOperations, failed]
        rfl
      · simp only [coldOperations, noKeys]
        simp [JwksCache.apply, JwksCache.onFetchMiss]

/-! ## After a document with unusable keys -/

/-- Keys that are added for one kid cost no other kid its entry while there is room. -/
theorem lookup_hits_onPassiveFetchSuccess
    {kid jwksUri key : String}
    {keys : List Jwk}
    {nowS : Int}
    (fits : ¬cache.Overflows (.onPassiveFetchSuccess kid keys nowS jwksUri))
    (isOther : key ≠ cacheKey jwksUri kid) :
    (cache.onPassiveFetchSuccess kid keys nowS jwksUri).hits.lookup key =
      cache.hits.lookup key := by
  unfold JwksCache.onPassiveFetchSuccess
  split
  · rfl
  · next nonempty =>
      split
      · exact AList.lookup_insert_ne isOther
      · next absent =>
          have room : UnorderedMap.size cache.hits < cache.maxEntries.1 := by
            by_contra full
            exact fits ⟨nonempty, absent, Nat.le_of_not_lt full⟩
          have within := UnorderedMap.size_insert_le cache.hits (cacheKey jwksUri kid)
            (cache.newEntry keys nowS)
          rw [JwksCache.onFetchSuccess_new_eq nonempty absent]
          simp only [JwksCache.hits_dropMiss, JwksCache.hits_recordJwksFetchSuccess,
            JwksCache.maxEntries_dropMiss, JwksCache.maxEntries_recordJwksFetchSuccess]
          rw [Lru.storeNew, Lru.evict_of_size_le]
          · exact AList.lookup_insert_ne isOther
          · refine le_trans (UnorderedMap.size_insert_le _ _ _) ?_
            omega

/-- An operation costs a key nothing while there is room. -/
def Spares (key : String) (operation : Operation) : Prop :=
  ∀ cache : JwksCache, ¬cache.Overflows operation →
    (cache.apply operation).hits.lookup key = cache.hits.lookup key

theorem lookup_hits_applyAll_of_spares
    {key : String}
    {operations : List Operation}
    (spares : ∀ operation ∈ operations, Spares key operation)
    (fits : cache.Fits operations) :
    (cache.applyAll operations).hits.lookup key = cache.hits.lookup key := by
  induction operations generalizing cache with
  | nil => rfl
  | cons operation operations inductionHypothesis =>
      obtain ⟨fitsFirst, fitsRest⟩ := fits
      rw [JwksCache.applyAll, Machine.run_cons,
        ← spares operation List.mem_cons_self cache fitsFirst]
      exact inductionHypothesis
        (fun other member => spares other (List.mem_cons_of_mem _ member)) fitsRest

/-- A kid that is excluded from the reconciliation is not counted. -/
theorem kidPresence_excluded
    {kid : String}
    (presentKids : List String)
    (jwksUri : String)
    (kid_ne : kid ≠ "")
    (printable : '\n' ∉ kid.toList) :
    JwksCache.kidPresence presentKids jwksUri kid (cacheKey jwksUri kid) = none := by
  rw [JwksCache.kidPresence, JwksCache.kidOfCacheKey_cacheKey jwksUri printable]
  exact if_pos ⟨kid_ne, rfl⟩

theorem reconcileAbsentKids_spares
    {kid jwksUri : String}
    (presentKids : List String)
    (kid_ne : kid ≠ "")
    (printable : '\n' ∉ kid.toList) :
    Spares (cacheKey jwksUri kid) (.reconcileAbsentKids presentKids jwksUri kid) := by
  intro cache _
  have excluded := kidPresence_excluded presentKids jwksUri kid_ne printable
  simp only [JwksCache.apply, JwksCache.reconcileAbsentKids, UnorderedMap.lookup_filter,
    UnorderedMap.lookup_mapEntries, excluded]
  cases cache.hits.lookup (cacheKey jwksUri kid) <;>
    simp [JwksCache.countAbsence, JwksCache.evictedForAbsence]

/-- What a refresh does for the siblings of its kid costs the kid nothing. -/
theorem siblingOperations_spare
    {keys : List Jwk}
    {kid : String}
    {response : Option Response}
    (read : readResponse backend response = .keys keys)
    (kid_ne : kid ≠ "")
    (printable : '\n' ∉ kid.toList)
    (order : IterationOrder String (List Jwk))
    (nowS : Int)
    (jwksUri : String) :
    ∀ operation ∈ siblingOperations backend order (groupSigningKeysByKid keys) kid nowS
        jwksUri,
      Spares (cacheKey jwksUri kid) operation := by
  intro operation member
  rcases List.mem_cons.mp member with rfl | ingests
  · exact reconcileAbsentKids_spares _ kid_ne printable
  · obtain ⟨group, inGroups, rfl⟩ := List.mem_map.mp ingests
    obtain ⟨visited, isSibling⟩ := List.mem_filter.mp inGroups
    have listed := lookup_groupSigningKeysByKid_eq_some.mp (IterationOrder.mem_visit.mp visited)
    intro cache fits
    refine lookup_hits_onPassiveFetchSuccess fits fun same => ?_
    have printableSibling := printable_of_listed read (listed.1 ▸ listed.2)
    exact of_decide_eq_true isSibling
      (cacheKey_inj printable printableSibling same).2.symm

/-- A document with none but unusable keys for the refreshed kid leaves its entry
alone. -/
theorem finishRefresh_unusable
    {parked : Parked}
    {keys : List Jwk}
    {response : Option Response}
    (read : readResponse backend response = .keys keys)
    (kid_ne : parked.parsed.kid ≠ "")
    (printable : '\n' ∉ parked.parsed.kid.toList)
    (listed : listedKeys keys parked.parsed.kid ≠ [])
    (unusable : usableKeys backend keys parked.parsed.kid = [])
    (reservationId : Nat)
    (order : IterationOrder String (List Jwk))
    (fits : cache.Fits
      (refreshOperations backend parked reservationId response order cache)) :
    (cache.applyAll (refreshOperations backend parked reservationId response order
      cache)).findHit parked.call.jwksUri parked.parsed.kid =
        cache.findHit parked.call.jwksUri parked.parsed.kid := by
  refine lookup_hits_applyAll_of_spares (fun operation member => ?_) fits
  simp only [refreshOperations, read, commitOperations,
    lookup_groupSigningKeysByKid_eq_some.mpr ⟨rfl, listed⟩, List.mem_cons, List.mem_append,
    List.not_mem_nil, or_false] at member
  rw [usableKeys] at unusable
  simp only [unusable, if_true, List.not_mem_nil, false_or] at member
  rcases member with rfl | siblings | rfl
  · exact fun cache _ => by simp [JwksCache.apply]
  · exact siblingOperations_spare read kid_ne printable order parked.call.opts.nowS
      parked.call.jwksUri operation siblings
  · exact fun _ _ => rfl

theorem usableKeys_eq_nil
    {keys : List Jwk}
    {kid : String}
    (unusable : ∀ k ∈ listedKeys keys kid, isUsableSigningKey backend k = false) :
    usableKeys backend keys kid = [] := by
  rw [List.eq_nil_iff_forall_not_mem]
  intro k member
  obtain ⟨listed, usable⟩ := mem_of_mem_screenUsableKeys member
  rw [unusable k listed] at usable
  cases usable

/-- A response without keys costs no entry its last good keys, and a document with
none but unusable keys for the refreshed kid costs that kid none. -/
theorem validateToken_keepsLastGood
    (backend : Backend)
    (order : IterationOrder String (List Jwk))
    (call : Call)
    (cache : JwksCache)
    (response : Option Response) :
    (Unread backend response →
      SameLastGood cache
        (validateToken backend (answering response) order call cache).cache) ∧
    ∀ parked requesting reservationId cachedResult document,
      beginValidation backend call cache = .fetching parked requesting →
      parked.route = .refresh reservationId cachedResult →
      response = some document → document.statusCode = 200 →
      listedKeys (parseJwksJson backend document.body) parked.parsed.kid ≠ [] →
      (∀ k ∈ listedKeys (parseJwksJson backend document.body) parked.parsed.kid,
        isUsableSigningKey backend k = false) →
      requesting.Fits (finishOperations backend parked response order requesting) →
        ((validateToken backend (answering response) order call cache).cache.findHit
            call.jwksUri parked.parsed.kid).map Entry.keys =
          (cache.findHit call.jwksUri parked.parsed.kid).map Entry.keys := by
  have begins := beginValidation_sameLastGood backend call cache
  constructor
  · intro unread
    unfold validateToken
    cases begun : beginValidation backend call cache with
    | finished outcome =>
        rw [begun] at begins
        exact begins
    | fetching parked requesting =>
        rw [begun] at begins
        exact begins.trans (finishValidation_sameLastGood unread parked order requesting)
  · intro parked requesting reservationId cachedResult document begun route answered isOk
      listed unusable fits
    obtain ⟨isCall, admitted, -, -⟩ :=
      (beginValidation_spec backend call cache).2 parked requesting begun
    subst answered
    have read := readResponse_eq_keys isOk (fun empty => listed (by rw [empty]; rfl))
    simp only [finishOperations, route] at fits
    have kept := finishRefresh_unusable read admitted.kid_ne admitted.printable listed
      (usableKeys_eq_nil unusable) reservationId order fits
    rw [begun] at begins
    have same := congrArg (Option.map Prod.fst)
      (begins (cacheKey call.jwksUri parked.parsed.kid))
    rw [Option.map_map, Option.map_map] at same
    unfold validateToken
    simp only [begun, answering, finishValidation, route]
    rw [isCall] at kept
    rw [finishRefresh_cache, kept]
    exact same

/-! ## A broken document -/

/-- The sample libraries, with a document whose key of kid `a` has no valid material. -/
def brokenBackend : Backend :=
  { sampleBackend with
    parseJson := fun body =>
      if body = "broken" then some (.object [("keys", .array [sampleKey "a" "Aw"])])
      else sampleBackend.parseJson body }

/-- Kid `a` is cached. -/
def brokenCache : JwksCache :=
  (JwksCache.create 300 1000).onFetchSuccess "a"
    [{ kid := "a", kty := "OKP", crv := "Ed25519", x := "AQ" }] 1000
    "https://idp.test/jwks"

theorem validateToken_keepsLastGood_sample :
    SameLastGood brokenCache
        (validateToken brokenBackend (answering none) .stored (sampleCall "a-new" 1300)
          brokenCache).cache ∧
      ((validateToken brokenBackend (answering (sampleResponse "broken")) .stored
          (sampleCall "a-new" 1300) brokenCache).cache.findHit
          "https://idp.test/jwks" "a").map Entry.keys =
        (brokenCache.findHit "https://idp.test/jwks" "a").map Entry.keys :=
  ⟨(validateToken_keepsLastGood brokenBackend .stored (sampleCall "a-new" 1300)
      brokenCache none).1 trivial,
    (validateToken_keepsLastGood brokenBackend .stored (sampleCall "a-new" 1300)
      brokenCache (sampleResponse "broken")).2 _ _ _ _ _ rfl rfl rfl rfl (by decide)
      (by decide) (by decide)⟩

end Validator
end QuackOauth
