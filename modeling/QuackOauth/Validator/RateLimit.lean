import QuackOauth.Jwks.Reservation
import QuackOauth.Validator.Operations

/-!
# The rate limit per kid

Between two requests for a kid the cache remembers the first by the kid's entry or
by its miss.  While neither is lost, calls made one after the other send the next
request an interval later at the earliest.
-/

namespace QuackOauth
namespace Jwks
namespace JwksCache

open Lib

/-! ## The trace of a request -/

/-- The entry of a kid, if it has one, was last tried within a span of time. -/
def TriedWithin (key : String) (sinceS untilS : Int) (cache : JwksCache) : Prop :=
  ∀ hit, cache.hits.lookup key = some hit →
    sinceS ≤ hit.lastRefreshAttemptS ∧ hit.lastRefreshAttemptS ≤ untilS

/-- The entry of a kid, or else its miss, tells that it was asked for within a span of
time. -/
structure Traced
    (key : String)
    (sinceS untilS : Int)
    (cache : JwksCache) : Prop where
  tried : TriedWithin key sinceS untilS cache
  missed : cache.hits.lookup key = none →
    ∃ miss, cache.misses.lookup key = some miss ∧
      sinceS ≤ miss.recordedAtS ∧ miss.recordedAtS ≤ untilS

/-- An operation loses the entry or the miss under a key, for lack of room or because
the kid is absent. -/
def Forgets (key : String) (cache : JwksCache) (operation : Operation) : Prop :=
  cache.droppedHit operation = some key ∨ cache.droppedMiss operation = some key ∨
    cache.evictsAbsent key operation = true

instance (key : String) (cache : JwksCache) (operation : Operation) :
    Decidable (Forgets key cache operation) :=
  inferInstanceAs (Decidable (_ ∨ _ ∨ _))

variable {cache : JwksCache} {key : String} {sinceS untilS nowS : Int}
variable {operation : Operation} {stored : Option Entry} {after : Entry}

theorem Traced.mono
    {laterS : Int}
    (traced : Traced key sinceS untilS cache)
    (later : untilS ≤ laterS) :
    Traced key sinceS laterS cache where
  tried := fun hit found =>
    ⟨(traced.tried hit found).1, Int.le_trans (traced.tried hit found).2 later⟩
  missed := fun absent => by
    obtain ⟨miss, found, since, until_⟩ := traced.missed absent
    exact ⟨miss, found, since, Int.le_trans until_ later⟩

/-- An entry keeps the time it was last tried at, or takes that of the operation. -/
theorem lastRefreshAttemptS_of_entryAfter
    (present : cache.entryAfter key stored operation = some after) :
    after.lastRefreshAttemptS ∈ operation.nowS? ∨
      ∃ hit, stored = some hit ∧ after.lastRefreshAttemptS = hit.lastRefreshAttemptS := by
  cases JwksCache.successor_of_entryAfter present with
  | untouched operation hit => exact .inr ⟨_, rfl, rfl⟩
  | reserved isKey isDue => exact .inl rfl
  | committed isKey accepts => exact .inr ⟨_, rfl, rfl⟩
  | marked isKey counts => exact .inl rfl
  | reconciled presentKids jwksUri excludeKid hit =>
      refine .inr ⟨hit, rfl, ?_⟩
      unfold countAbsence
      split <;> rfl
  | stored isKey nonempty =>
      cases stored with
      | none => exact .inl rfl
      | some hit => exact .inr ⟨hit, rfl, rfl⟩
  | extended isKey nonempty =>
      cases stored with
      | none => exact .inl rfl
      | some hit => exact .inr ⟨hit, rfl, rfl⟩

theorem apply_triedWithin
    (consistent : cache.Consistent)
    (stamped : ∀ stamp ∈ operation.nowS?, stamp = nowS)
    (since : sinceS ≤ nowS)
    (tried : TriedWithin key sinceS nowS cache) :
    TriedWithin key sinceS nowS (cache.apply operation) := by
  intro after found
  rw [(apply_applied consistent operation).lookup_hits] at found
  split at found
  · cases found
  · rcases lastRefreshAttemptS_of_entryAfter found with atStamp | ⟨hit, stored, same⟩
    · rw [stamped _ atStamp]
      exact ⟨since, Int.le_refl _⟩
    · rw [same]
      exact tried hit stored

/-- The miss of a kid that stays uncached is kept or recorded anew. -/
theorem missAfter_of_uncached
    (miss : MissEntry)
    (uncached : cache.entryAfter key none operation = none) :
    ∃ after, cache.missAfter key (some miss) operation = some after ∧
      (after.recordedAtS ∈ operation.nowS? ∨ after.recordedAtS = miss.recordedAtS) := by
  cases operation with
  | onFetchSuccess kid keys stamp jwksUri =>
      rw [entryAfter] at uncached
      rw [missAfter]
      split at uncached
      · cases uncached
      · next notStored =>
          rw [if_neg notStored]
          exact ⟨miss, rfl, .inr rfl⟩
  | onPassiveFetchSuccess kid keys stamp jwksUri =>
      rw [entryAfter] at uncached
      rw [missAfter]
      split at uncached
      · cases uncached
      · next notStored =>
          rw [if_neg fun stores => notStored ⟨stores.1, stores.2.1⟩]
          exact ⟨miss, rfl, .inr rfl⟩
  | onFetchMiss kid stamp jwksUri =>
      rw [missAfter]
      split
      · exact ⟨_, rfl, .inl rfl⟩
      · exact ⟨miss, rfl, .inr rfl⟩
  | _ => exact ⟨miss, rfl, .inr rfl⟩

/-- What one operation preserves that loses nothing. -/
theorem apply_traced
    (consistent : cache.Consistent)
    (stamped : ∀ stamp ∈ operation.nowS?, stamp = nowS)
    (since : sinceS ≤ nowS)
    (keeps : ¬Forgets key cache operation)
    (traced : Traced key sinceS nowS cache) :
    Traced key sinceS nowS (cache.apply operation) := by
  obtain ⟨keepsHit, keepsMiss, notAbsent⟩ : cache.droppedHit operation ≠ some key ∧
      cache.droppedMiss operation ≠ some key ∧
      cache.evictsAbsent key operation ≠ true := by
    simpa [Forgets] using keeps
  have applied := apply_applied consistent operation
  refine ⟨apply_triedWithin consistent stamped since traced.tried, fun absent => ?_⟩
  rw [applied.lookup_hits, if_neg keepsHit] at absent
  cases found : cache.hits.lookup key with
  | some hit =>
      have stays := entryAfter_isSome operation found
      rw [found] at absent
      rw [absent] at stays
      simp [notAbsent] at stays
  | none =>
      rw [found] at absent
      obtain ⟨miss, missed, sinceMiss, untilMiss⟩ := traced.missed found
      obtain ⟨after, left, time⟩ := missAfter_of_uncached miss absent
      rw [applied.lookup_misses, if_neg keepsMiss, missed]
      refine ⟨after, left, ?_⟩
      rcases time with atStamp | same
      · rw [stamped _ atStamp]
        exact ⟨since, Int.le_refl _⟩
      · rw [same]
        exact ⟨sinceMiss, untilMiss⟩

theorem applyAll_triedWithin
    {operations : List Operation}
    (consistent : cache.Consistent)
    (stamped : ∀ operation ∈ operations, ∀ stamp ∈ operation.nowS?, stamp = nowS)
    (since : sinceS ≤ nowS)
    (tried : TriedWithin key sinceS nowS cache) :
    TriedWithin key sinceS nowS (cache.applyAll operations) := by
  induction operations generalizing cache with
  | nil => exact tried
  | cons operation operations inductionHypothesis =>
      apply inductionHypothesis (apply_applied consistent operation).consistent
      · exact fun other member => stamped other (List.mem_cons_of_mem _ member)
      · exact apply_triedWithin consistent (stamped operation List.mem_cons_self) since tried

/-- What a list of operations preserves that lose nothing. -/
theorem applyAll_traced
    {operations : List Operation}
    (consistent : cache.Consistent)
    (stamped : ∀ operation ∈ operations, ∀ stamp ∈ operation.nowS?, stamp = nowS)
    (since : sinceS ≤ nowS)
    (keeps : Machine.AllSteps apply (fun cache operation => ¬Forgets key cache operation)
      cache operations)
    (traced : Traced key sinceS nowS cache) :
    Traced key sinceS nowS (cache.applyAll operations) := by
  induction operations generalizing cache with
  | nil => exact traced
  | cons operation operations inductionHypothesis =>
      obtain ⟨keepsFirst, keepsRest⟩ := keeps
      apply inductionHypothesis (apply_applied consistent operation).consistent
      · exact fun other member => stamped other (List.mem_cons_of_mem _ member)
      · exact keepsRest
      · exact apply_traced consistent (stamped operation List.mem_cons_self) since
          keepsFirst traced

/-- A miss that is recorded is a trace of its time. -/
theorem onFetchMiss_traced
    {kid jwksUri : String}
    (consistent : cache.Consistent)
    (tried : TriedWithin (cacheKey jwksUri kid) nowS nowS cache) :
    Traced (cacheKey jwksUri kid) nowS nowS
      (cache.apply (.onFetchMiss kid nowS jwksUri)) := by
  have applied := apply_applied consistent (.onFetchMiss kid nowS jwksUri)
  refine ⟨?_, fun _ => ?_⟩
  · refine apply_triedWithin consistent ?_ (Int.le_refl _) tried
    simp [Operation.nowS?]
  · have keeps : cache.droppedMiss (.onFetchMiss kid nowS jwksUri) ≠
        some (cacheKey jwksUri kid) := by
      intro leaves
      rw [droppedMiss] at leaves
      split at leaves
      · cases leaves
      · next absent =>
          exact absent (consistent.misses.isSome_lookup_of_victim leaves)
    rw [applied.lookup_misses, if_neg keeps, missAfter, if_pos rfl]
    exact ⟨_, rfl, Int.le_refl _, Int.le_refl _⟩

end JwksCache
end Jwks

namespace Validator

open Lib Jwks Jwt JwksCache

/-! ## One call -/

/-- Whether a call sends a request for a kid of an issuer. -/
def asksFor
    (backend : Backend)
    (jwksUri kid : String)
    (call : Call)
    (cache : JwksCache) : Bool :=
  match beginValidation backend call cache with
  | .finished _ => false
  | .fetching parked _ => parked.call.jwksUri = jwksUri && parked.parsed.kid = kid

/-- A request that fails: no response, or one that is no success. -/
def isFailure : Option Response → Bool
  | none => true
  | some response => response.statusCode ≠ 200

/-- Whether a call asks for a kid that is not cached, and its request fails. -/
def failsCold
    (backend : Backend)
    (jwksUri kid : String)
    (response : Option Response)
    (call : Call)
    (cache : JwksCache) : Bool :=
  asksFor backend jwksUri kid call cache && (cache.findHit jwksUri kid).isNone &&
    isFailure response

variable {backend : Backend} {jwksUri kid : String} {call : Call}
variable {response : Option Response} {order : IterationOrder String (List Jwk)}
variable {cache : JwksCache} {sinceS untilS : Int}

/-- A kid is asked for on either route. -/
theorem asksFor_cases
    (asks : asksFor backend jwksUri kid call cache = true) :
    call.jwksUri = jwksUri ∧ ∃ parsed, parsed.kid = kid ∧
      ((∃ hit cachedResult, cache.findHit jwksUri kid = some hit ∧
          (cache.tryReserveRefresh kid call.opts.nowS jwksUri).1 ≠ 0 ∧
          beginValidation backend call cache = .fetching
            { call, parsed
              route := .refresh (cache.tryReserveRefresh kid call.opts.nowS jwksUri).1
                cachedResult }
            ((cache.tryReserveRefresh kid call.opts.nowS
              jwksUri).2.recordJwksFetch call.opts.nowS)) ∨
        cache.findHit jwksUri kid = none ∧
          cache.lookup kid call.opts.nowS jwksUri = {} ∧
          beginValidation backend call cache = .fetching { call, parsed, route := .cold }
            (cache.recordJwksFetch call.opts.nowS)) := by
  have begun := beginValidation_begun backend call cache
  unfold asksFor at asks
  generalize beginValidation backend call cache = progress at begun asks
  cases begun with
  | refreshing parsed hit cachedResult admitted found calls rejected allowed granted =>
      simp only [Bool.and_eq_true, decide_eq_true_eq] at asks
      obtain ⟨rfl, rfl⟩ := asks
      exact ⟨rfl, parsed, rfl, .inl ⟨hit, cachedResult, found, granted, rfl⟩⟩
  | cold parsed admitted absent missing =>
      simp only [Bool.and_eq_true, decide_eq_true_eq] at asks
      obtain ⟨rfl, rfl⟩ := asks
      exact ⟨rfl, parsed, rfl, .inr ⟨absent, missing, rfl⟩⟩
  | _ => cases asks

/-- A kid that was asked for less than an interval ago is not asked for. -/
theorem asksFor_eq_false_of_traced
    (traced : Traced (cacheKey jwksUri kid) sinceS untilS cache)
    (forward : untilS ≤ call.opts.nowS)
    (soon : call.opts.nowS < sinceS + cache.minRefreshS.1) :
    asksFor backend jwksUri kid call cache = false := by
  rw [← Bool.not_eq_true]
  intro asks
  obtain ⟨-, parsed, -, ⟨hit, cachedResult, found, granted, -⟩ | ⟨absent, missing, -⟩⟩ :=
    asksFor_cases asks
  · obtain ⟨since, until_⟩ := traced.tried hit found
    rw [tryReserveRefresh_fst_eq] at granted
    simp only [found] at granted
    have notDue : refreshDue cache.minRefreshS call.opts.nowS hit = false := by
      have isForward : relateClock call.opts.nowS hit.lastRefreshAttemptS = .forward := by
        apply if_pos
        omega
      simp only [refreshDue, isForward, decide_eq_false_iff_not]
      omega
    rw [notDue] at granted
    exact granted rfl
  · obtain ⟨miss, missed, since, until_⟩ := traced.missed absent
    have missed : cache.findMiss jwksUri kid = some miss := missed
    have isForward : relateClock call.opts.nowS miss.recordedAtS = .forward := by
      apply if_pos
      omega
    have isSoon : call.opts.nowS - miss.recordedAtS < cache.minRefreshS.1 := by omega
    rw [JwksCache.lookup, absent] at missing
    simp only [missed, isForward, if_pos isSoon] at missing
    cases missing

/-- The keys of a document leave the kid's entry or its miss behind, whatever they
are. -/
theorem coldOperations_traced
    (parked : Parked)
    (consistent : cache.Consistent)
    (absent : cache.findHit parked.call.jwksUri parked.parsed.kid = none)
    (succeeds : isFailure response = false) :
    Traced (cacheKey parked.call.jwksUri parked.parsed.kid) parked.call.opts.nowS
      parked.call.opts.nowS
      (cache.applyAll (coldOperations backend parked response order cache)) := by
  have untried : TriedWithin (cacheKey parked.call.jwksUri parked.parsed.kid)
      parked.call.opts.nowS parked.call.opts.nowS cache := by
    intro hit found
    cases absent.symm.trans found
  unfold coldOperations
  cases read : readResponse backend response with
  | failed =>
      exfalso
      unfold readResponse at read
      cases response with
      | none => cases succeeds
      | some document =>
          rw [isFailure, decide_eq_false_iff_not] at succeeds
          simp only [if_neg succeeds] at read
          split at read <;> cases read
  | noKeys => exact onFetchMiss_traced consistent untried
  | keys keys =>
      dsimp only
      generalize ingests_eq : Operation.recordJwksFetchSuccess parked.call.opts.nowS
        parked.call.jwksUri :: ingestOperations backend parked
          (order.visit (groupSigningKeysByKid keys)) = ingests
      have stamped : ∀ operation ∈ ingests, ∀ stamp ∈ operation.nowS?,
          stamp = parked.call.opts.nowS := by
        subst ingests_eq
        intro operation member
        rcases List.mem_cons.mp member with rfl | ingested
        · simp [Operation.nowS?]
        · obtain ⟨group, -, rfl⟩ := List.mem_map.mp ingested
          simp [Operation.nowS?]
      have ingestedWithin := applyAll_triedWithin consistent stamped (Int.le_refl _) untried
      have after := applyAll_consistent ingests consistent
      split
      · rw [JwksCache.applyAll, Machine.run_append]
        exact onFetchMiss_traced after ingestedWithin
      · next isHit =>
          refine ⟨ingestedWithin, fun uncached => ?_⟩
          exfalso
          rcases lookup_cases (cache.applyAll ingests) parked.parsed.kid
            parked.call.opts.nowS parked.call.jwksUri with ⟨hit, found, -⟩ | ⟨-, notHit⟩
          · cases uncached.symm.trans found
          · apply isHit
            rcases notHit with limited | missing
            · exact .inl (by rw [limited]; decide)
            · exact .inl (by rw [missing]; decide)

/-- A call that asks for a kid and loses no trace leaves one of its own time. -/
theorem traced_of_asksFor
    (consistent : cache.Consistent)
    (asks : asksFor backend jwksUri kid call cache = true)
    (succeeds : failsCold backend jwksUri kid response call cache = false)
    (keeps : Machine.AllSteps JwksCache.apply
      (fun cache operation => ¬Forgets (cacheKey jwksUri kid) cache operation) cache
      (callOperations backend response order call cache)) :
    Traced (cacheKey jwksUri kid) call.opts.nowS call.opts.nowS
      (validateToken backend (answering response) order call cache).cache := by
  have begins := beginValidation_cache backend call cache
  have stamped : ∀ operation ∈ callOperations backend response order call cache,
      ∀ stamp ∈ operation.nowS?, stamp = call.opts.nowS :=
    fun operation member => callOperations_nowS member
  rw [validateToken_cache]
  rw [callOperations] at keeps stamped ⊢
  rw [Machine.allSteps_append, ← JwksCache.applyAll, ← begins] at keeps
  rw [JwksCache.applyAll, Machine.run_append, ← JwksCache.applyAll, ← begins]
  have consistentBetween : (beginValidation backend call cache).cache.Consistent := by
    rw [begins]
    exact applyAll_consistent _ consistent
  obtain ⟨rfl, parsed, rfl, ⟨hit, cachedResult, found, granted, begun⟩ |
    ⟨absent, -, begun⟩⟩ := asksFor_cases asks
  · -- The reservation stamps the entry.
    rw [begun] at keeps stamped consistentBetween ⊢
    refine applyAll_traced consistentBetween
      (fun operation member => stamped operation (List.mem_append_right _ member))
      (Int.le_refl _) keeps.2 ?_
    have applied := apply_applied consistent
      (.tryReserveRefresh parsed.kid call.opts.nowS call.jwksUri)
    have isDue : refreshDue cache.minRefreshS call.opts.nowS hit = true := by
      rw [tryReserveRefresh_fst_eq] at granted
      simp only [found] at granted
      by_contra notDue
      exact granted (if_neg notDue)
    have noVictim : cache.droppedHit
        (.tryReserveRefresh parsed.kid call.opts.nowS call.jwksUri) = none := rfl
    have stored : (cache.apply
        (.tryReserveRefresh parsed.kid call.opts.nowS call.jwksUri)).hits.lookup
          (cacheKey call.jwksUri parsed.kid) =
        some { hit with
          lastRefreshAttemptS := call.opts.nowS
          currentReservationId := cache.nextReservationId } := by
      rw [applied.lookup_hits, noVictim, if_neg (Option.some_ne_none _).symm, entryAfter,
        if_pos rfl]
      rw [findHit] at found
      rw [found, Option.map_some, if_pos isDue]
    rw [apply] at stored
    constructor
    · intro after present
      rw [Progress.cache, hits_recordJwksFetch, stored] at present
      cases present
      exact ⟨Int.le_refl _, Int.le_refl _⟩
    · intro uncached
      rw [Progress.cache, hits_recordJwksFetch, stored] at uncached
      cases uncached
  · rw [begun] at consistentBetween ⊢
    have succeeds : isFailure response = false := by
      simpa [failsCold, asks, absent] using succeeds
    refine coldOperations_traced { call, parsed, route := .cold } consistentBetween ?_
      succeeds
    rw [Progress.cache, findHit, hits_recordJwksFetch]
    exact absent

/-! ## Calls one after the other -/

/-- A token is presented, and its request, if it comes to one, is answered. -/
structure Presentation where
  call : Call
  response : Option Response
  order : IterationOrder String (List Jwk)

/-- The cache, and the time of the last request for the kid that is watched. -/
structure Watch where
  cache : JwksCache
  lastGetS : Option Int := none

namespace Watch

/-- The time at which a presentation asks for the kid. -/
def requestedAt
    (backend : Backend)
    (jwksUri kid : String)
    (watch : Watch)
    (presentation : Presentation) : Option Int :=
  if asksFor backend jwksUri kid presentation.call watch.cache then
    some presentation.call.opts.nowS
  else none

/-- Validate the token that is presented. -/
def step
    (backend : Backend)
    (jwksUri kid : String)
    (watch : Watch)
    (presentation : Presentation) : Watch where
  cache := (validateToken backend (answering presentation.response) presentation.order
    presentation.call watch.cache).cache
  lastGetS := (requestedAt backend jwksUri kid watch presentation).or watch.lastGetS

/-- A presentation leaves the kid's trace alone: its request does not fail cold, and
within an interval of the last request no operation loses the trace. -/
def Remembers
    (backend : Backend)
    (jwksUri kid : String)
    (watch : Watch)
    (presentation : Presentation) : Prop :=
  failsCold backend jwksUri kid presentation.response presentation.call watch.cache =
    false ∧
  ∀ lastS ∈ (requestedAt backend jwksUri kid watch presentation).or watch.lastGetS,
    presentation.call.opts.nowS < lastS + watch.cache.minRefreshS.1 →
      Machine.AllSteps JwksCache.apply
        (fun cache operation => ¬Forgets (cacheKey jwksUri kid) cache operation)
        watch.cache
        (callOperations backend presentation.response presentation.order
          presentation.call watch.cache)

instance (backend : Backend) (jwksUri kid : String) (watch : Watch)
    (presentation : Presentation) :
    Decidable (Remembers backend jwksUri kid watch presentation) :=
  inferInstanceAs (Decidable (_ ∧ ∀ lastS ∈ _, _ → _))

/-- The last request is traced for an interval. -/
structure Sound
    (jwksUri kid : String)
    (interval : RefreshInterval)
    (untilS : Int)
    (watch : Watch) : Prop where
  consistent : watch.cache.Consistent
  minRefreshS_eq : watch.cache.minRefreshS = interval
  past : ∀ lastS ∈ watch.lastGetS, lastS ≤ untilS
  traced : ∀ lastS ∈ watch.lastGetS, untilS < lastS + interval.1 →
    Traced (cacheKey jwksUri kid) lastS untilS watch.cache

variable {watch : Watch} {presentation : Presentation} {interval : RefreshInterval}

/-- Within an interval of the last request there is no other. -/
theorem Sound.apart
    (sound : Sound jwksUri kid interval untilS watch)
    (forward : untilS ≤ presentation.call.opts.nowS)
    (asks : asksFor backend jwksUri kid presentation.call watch.cache = true) :
    ∀ lastS ∈ watch.lastGetS, lastS + interval.1 ≤ presentation.call.opts.nowS := by
  intro lastS isLast
  by_contra soon
  rw [Int.not_le] at soon
  have traced := sound.traced lastS isLast (by omega)
  rw [← sound.minRefreshS_eq] at soon
  rw [asksFor_eq_false_of_traced traced forward soon] at asks
  cases asks

/-- What one presentation preserves. -/
theorem Sound.step
    (sound : Sound jwksUri kid interval untilS watch)
    (forward : untilS ≤ presentation.call.opts.nowS)
    (remembers : Remembers backend jwksUri kid watch presentation) :
    Sound jwksUri kid interval presentation.call.opts.nowS
      (step backend jwksUri kid watch presentation) := by
  obtain ⟨consistent, minRefreshS_eq, past, traced⟩ := sound
  obtain ⟨succeeds, keeps⟩ := remembers
  rw [minRefreshS_eq] at keeps
  have cache_eq : (validateToken backend (answering presentation.response)
      presentation.order presentation.call watch.cache).cache =
        watch.cache.applyAll (callOperations backend presentation.response
          presentation.order presentation.call watch.cache) :=
    validateToken_cache _ _ _ _
  have consistentAfter : (Watch.step backend jwksUri kid watch
      presentation).cache.Consistent := by
    rw [Watch.step, cache_eq]
    exact applyAll_consistent _ consistent
  have interval_eq : (Watch.step backend jwksUri kid watch
      presentation).cache.minRefreshS = interval := by
    rw [Watch.step, cache_eq, (applyAll_bounds _ consistent).1, minRefreshS_eq]
  by_cases asks : asksFor backend jwksUri kid presentation.call watch.cache = true
  · have requested : requestedAt backend jwksUri kid watch presentation =
        some presentation.call.opts.nowS := if_pos asks
    refine ⟨consistentAfter, interval_eq, ?_, ?_⟩
    · simp [Watch.step, requested]
    · intro lastS isLast soon
      simp only [Watch.step, requested, Option.some_or, Option.mem_some_iff] at isLast
      subst isLast
      exact traced_of_asksFor consistent asks succeeds (keeps _ (by simp [requested]) soon)
  · have unrequested : requestedAt backend jwksUri kid watch presentation = none :=
      if_neg asks
    have last_eq : (Watch.step backend jwksUri kid watch presentation).lastGetS =
        watch.lastGetS := by
      rw [Watch.step, unrequested, Option.none_or]
    rw [unrequested, Option.none_or] at keeps
    refine ⟨consistentAfter, interval_eq, ?_, ?_⟩
    · intro lastS isLast
      rw [last_eq] at isLast
      exact Int.le_trans (past lastS isLast) forward
    · intro lastS isLast soon
      rw [last_eq] at isLast
      have before := traced lastS isLast (Int.lt_of_le_of_lt forward soon)
      rw [Watch.step, cache_eq]
      exact applyAll_traced consistent (fun operation member => callOperations_nowS member)
        (Int.le_trans (past lastS isLast) forward) (keeps lastS isLast soon)
        (before.mono forward)

/-- Requests that an interval separates. -/
abbrev Apart (interval : RefreshInterval) (earlierS laterS : Int) : Prop :=
  earlierS + interval.1 ≤ laterS

/-- From a sound state on, requests are apart from the last one and from each other. -/
theorem Sound.asks_apart
    {presentations : List Presentation}
    (sound : Sound jwksUri kid interval untilS watch)
    (forward : ∀ presentation ∈ presentations, untilS ≤ presentation.call.opts.nowS)
    (clock : presentations.Pairwise fun earlier later =>
      earlier.call.opts.nowS ≤ later.call.opts.nowS)
    (remembered : Machine.AllSteps (Watch.step backend jwksUri kid)
      (Remembers backend jwksUri kid) watch presentations) :
    (watch.lastGetS.toList ++ Machine.observations (Watch.step backend jwksUri kid)
      (requestedAt backend jwksUri kid) watch presentations).Pairwise (Apart interval) := by
  induction presentations generalizing watch untilS with
  | nil =>
      rw [Machine.observations, List.append_nil]
      cases watch.lastGetS with
      | none => exact List.Pairwise.nil
      | some lastS => exact List.pairwise_singleton _ lastS
  | cons presentation rest inductionHypothesis =>
      obtain ⟨remembers, remembered⟩ := remembered
      obtain ⟨clockFirst, clockRest⟩ := List.pairwise_cons.mp clock
      have forwardFirst := forward presentation List.mem_cons_self
      have restApart := inductionHypothesis (sound.step forwardFirst remembers) clockFirst
        clockRest remembered
      rw [Machine.observations]
      by_cases asks : asksFor backend jwksUri kid presentation.call watch.cache = true
      · have requested : requestedAt backend jwksUri kid watch presentation =
            some presentation.call.opts.nowS := if_pos asks
        have apart := sound.apart forwardFirst asks
        simp only [Watch.step, requested, Option.some_or] at restApart ⊢
        cases last : watch.lastGetS with
        | none => exact restApart
        | some lastS =>
            have lastApart := apart lastS last
            refine List.pairwise_cons.mpr ⟨fun laterS member => ?_, restApart⟩
            rcases List.mem_cons.mp member with rfl | later
            · exact lastApart
            · have laterApart := (List.pairwise_cons.mp restApart).1 laterS later
              have positive := interval.2.1
              unfold Apart at laterApart ⊢
              omega
      · have unrequested : requestedAt backend jwksUri kid watch presentation = none :=
          if_neg asks
        simp only [Watch.step, unrequested, Option.none_or] at restApart
        simp only [unrequested, Watch.step, Option.none_or]
        exact restApart

/-- While the cache remembers a kid, its requests are an interval apart. -/
theorem kid_requests_apart
    (backend : Backend)
    (minRefreshS : Int)
    (maxEntries : Nat)
    (jwksUri kid : String)
    (presentations : List Presentation)
    (clock : presentations.Pairwise fun earlier later =>
      earlier.call.opts.nowS ≤ later.call.opts.nowS)
    (remembered : Machine.AllSteps (step backend jwksUri kid)
      (Remembers backend jwksUri kid) { cache := create minRefreshS maxEntries }
      presentations) :
    (Machine.observations (step backend jwksUri kid) (requestedAt backend jwksUri kid)
      { cache := create minRefreshS maxEntries } presentations).Pairwise
        (Apart (clampRefreshInterval minRefreshS)) := by
  cases presentations with
  | nil => exact List.Pairwise.nil
  | cons presentation rest =>
      have sound : Sound jwksUri kid (clampRefreshInterval minRefreshS)
          presentation.call.opts.nowS { cache := create minRefreshS maxEntries } :=
        ⟨create_consistent minRefreshS maxEntries, rfl, by simp, by simp⟩
      refine sound.asks_apart (fun other member => ?_) clock remembered
      rcases List.mem_cons.mp member with rfl | later
      · exact Int.le_refl _
      · exact (List.pairwise_cons.mp clock).1 other later

/-- A token of the sample issuer is presented, and its request is answered. -/
def samplePresentation
    (token : String)
    (nowS : Int)
    (response : Option Response) : Presentation where
  call := sampleCall token nowS
  response := response
  order := .stored

/-- Kid `a` is fetched; its rotated key is asked for in vain, and again. -/
def sampleRotation : List Presentation :=
  [samplePresentation "a-old" 1000 (sampleResponse "first"),
    samplePresentation "a-new" 1100 none,
    samplePresentation "a-new" 1300 none,
    samplePresentation "a-new" 1600 (sampleResponse "after")]

theorem kid_requests_apart_sample :
    Machine.observations (step sampleBackend System.sampleUri "a")
        (requestedAt sampleBackend System.sampleUri "a") { cache := create 300 1000 }
        sampleRotation = [1000, 1300, 1600] ∧
      (Machine.observations (step sampleBackend System.sampleUri "a")
        (requestedAt sampleBackend System.sampleUri "a") { cache := create 300 1000 }
        sampleRotation).Pairwise (Apart (clampRefreshInterval 300)) :=
  ⟨by decide, kid_requests_apart sampleBackend 300 1000 System.sampleUri "a"
    sampleRotation (by decide) (by decide)⟩

/-- Kid `a` is cached, then kid `b` of the same issuer, then kid `a` is asked for. -/
def sampleCrowd : List Presentation :=
  [samplePresentation "a-old" 1000 (sampleResponse "first"),
    { samplePresentation "b-old" 1002 (sampleResponse "before") with order := .reversed },
    samplePresentation "a-old" 1004 (sampleResponse "before")]

/-- Kid `a` is asked for at a bad moment, and again when the budget allows. -/
def sampleOutage : List Presentation :=
  [samplePresentation "a-old" 1000 none,
    samplePresentation "a-old" 1002 (sampleResponse "first")]

/-- The sample tokens, and one of a third kid that its key did not sign. -/
def departureTokens : List (String × String × String) :=
  ("c-new", "c", "new") :: sampleTokens

/-- Documents that list two kids, and kid `b` with them. -/
def departureDocuments : List (String × List Json) :=
  [("others", [sampleKey "a" "AQ", sampleKey "c" "AQ"]),
    ("all", [sampleKey "a" "AQ", sampleKey "b" "AQ", sampleKey "c" "AQ"])]

/-- The sample issuer with these tokens and documents. -/
def departureBackend : Backend :=
  { sampleBackend with
    decode := fun token => (departureTokens.lookup token).map fun signed =>
      { algorithm := .value "EdDSA", keyId := .value signed.1 }
    parseJson := fun body => (departureDocuments.lookup body).map fun keys =>
      .object [("keys", .array keys)]
    verify := fun config token =>
      match departureTokens.lookup token with
      | some signed => if signed.2 = config.pem then .ok else .signatureError
      | none => .signatureError }

/-- Kid `b` is cached, then missing from the documents of two other kids' refreshes, then
asked for. -/
def sampleDeparture : List Presentation :=
  [samplePresentation "a-old" 500 (sampleResponse "others"),
    samplePresentation "b-old" 1000 (sampleResponse "all"),
    samplePresentation "a-new" 1002 (sampleResponse "others"),
    samplePresentation "c-new" 1004 (sampleResponse "others"),
    samplePresentation "b-old" 1006 (sampleResponse "all")]

/-- Requests for a kid come too soon after the kid has lost its place in a full cache,
after it was evicted for its absence, and after a request that failed before the kid was
cached. -/
theorem kid_requests_too_soon :
    (sampleCrowd.Pairwise fun earlier later =>
      earlier.call.opts.nowS ≤ later.call.opts.nowS) ∧
    Machine.observations (step sampleBackend System.sampleUri "a")
        (requestedAt sampleBackend System.sampleUri "a") { cache := create 300 1 }
        sampleCrowd = [1000, 1004] ∧
    ¬(Machine.observations (step sampleBackend System.sampleUri "a")
        (requestedAt sampleBackend System.sampleUri "a") { cache := create 300 1 }
        sampleCrowd).Pairwise (Apart (clampRefreshInterval 300)) ∧
    (sampleDeparture.Pairwise fun earlier later =>
      earlier.call.opts.nowS ≤ later.call.opts.nowS) ∧
    Machine.observations (step departureBackend System.sampleUri "b")
        (requestedAt departureBackend System.sampleUri "b") { cache := create 300 1000 }
        sampleDeparture = [1000, 1006] ∧
    ¬(Machine.observations (step departureBackend System.sampleUri "b")
        (requestedAt departureBackend System.sampleUri "b") { cache := create 300 1000 }
        sampleDeparture).Pairwise (Apart (clampRefreshInterval 300)) ∧
    (sampleOutage.Pairwise fun earlier later =>
      earlier.call.opts.nowS ≤ later.call.opts.nowS) ∧
    Machine.observations (step sampleBackend System.sampleUri "a")
        (requestedAt sampleBackend System.sampleUri "a") { cache := create 300 1000 }
        sampleOutage = [1000, 1002] ∧
    ¬(Machine.observations (step sampleBackend System.sampleUri "a")
        (requestedAt sampleBackend System.sampleUri "a") { cache := create 300 1000 }
        sampleOutage).Pairwise (Apart (clampRefreshInterval 300)) := by
  refine ⟨?_, ?_, ?_, ?_, ?_, ?_, ?_, ?_, ?_⟩ <;> decide

end Watch
end Validator
end QuackOauth
