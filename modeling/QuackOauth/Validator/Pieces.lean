import QuackOauth.Jwks.Evolution
import QuackOauth.Validator.Validate

/-!
# What the two pieces of a validation do

For each piece of a call, one lemma says everything later results use of it: what
the header had to satisfy, which key a positive verdict rests on, and how the cache
evolved.  Nothing outside this module unfolds the pieces.
-/

namespace QuackOauth
namespace Validator

open Lib Jwks Jwt

/-- The header checks that a token passes before any key is looked up. -/
structure HeaderAdmitted
    (backend : Backend)
    (call : Call)
    (parsed : JwtParsed) : Prop where
  parses : parseJwt backend call.token = some parsed
  kid_ne : parsed.kid ≠ ""
  notForbidden : isForbiddenAlgorithm parsed.alg = false
  allowed : isAlgorithmAllowed parsed.alg call.opts.allowedAlgorithms = true

/-- A key is stored for a kid of an issuer. -/
def StoredFor (cache : JwksCache) (jwksUri kid : String) (k : Jwk) : Prop :=
  ∃ hit, cache.findHit jwksUri kid = some hit ∧ k ∈ hit.keys

/-- A key is a usable signing key of a kid in the 200 document of a response. -/
structure Published
    (backend : Backend)
    (response : Option Response)
    (kid : String)
    (k : Jwk) : Prop where
  document : ∃ document, response = some document ∧ document.statusCode = 200 ∧
    k ∈ parseJwksJson backend document.body
  kid_eq : k.kid = kid
  signing : isSigningKey k = true
  usable : isUsableSigningKey backend k = true

/-- A published kid holds no newline. -/
theorem Published.printable
    {backend : Backend}
    {response : Option Response}
    {kid : String}
    {k : Jwk}
    (published : Published backend response kid k) :
    '\n' ∉ kid.toList := by
  obtain ⟨document, -, -, member⟩ := published.document
  rw [← published.kid_eq]
  exact newline_notMem_of_kidAcceptable (kidAcceptable_of_mem_parseJwksJson member)

/-- Neither does the kid of an admitted token. -/
theorem HeaderAdmitted.printable
    {backend : Backend}
    {call : Call}
    {parsed : JwtParsed}
    (admitted : HeaderAdmitted backend call parsed) :
    '\n' ∉ parsed.kid.toList :=
  newline_notMem_of_kidAcceptable (parseJwt_some admitted.parses).2.1

theorem mem_keys_of_lookup_hit
    {cache : JwksCache}
    {kid jwksUri : String}
    {nowS : Int}
    {k : Jwk}
    (member : k ∈ (cache.lookup kid nowS jwksUri).keys) :
    StoredFor cache jwksUri kid k := by
  unfold JwksCache.lookup at member
  split at member
  · next hit found => exact ⟨hit, found, member⟩
  · split at member
    · cases member
    · split at member
      · dsimp only at member
        split at member <;> cases member
      · cases member
      · cases member

/-! ## Up to the request -/

variable {backend : Backend} {call : Call} {parsed : JwtParsed}

theorem incrementThrottledRefreshes_evolves
    (isBudget : Bool)
    (nowS : Int)
    (cache : JwksCache) :
    Evolves publishesNothing cache (cache.incrementThrottledRefreshes isBudget nowS) :=
  Evolves.of_hits_eq rfl rfl

theorem setLastRefreshReason_evolves (reason : String) (cache : JwksCache) :
    Evolves publishesNothing cache (cache.setLastRefreshReason reason) :=
  Evolves.of_hits_eq rfl rfl

theorem recordJwksFetch_evolves (nowS : Int) (cache : JwksCache) :
    Evolves publishesNothing cache (cache.recordJwksFetch nowS) :=
  Evolves.of_hits_eq (by simp) (by simp)

theorem recordJwksFetchSuccess_evolves
    (nowS : Int)
    (jwksUri : String)
    (cache : JwksCache) :
    Evolves publishesNothing cache (cache.recordJwksFetchSuccess nowS jwksUri) :=
  Evolves.of_hits_eq (by simp) (by simp)

/-- What a call remembers across its request. -/
structure Fetching
    (backend : Backend)
    (call : Call)
    (before : JwksCache)
    (parked : Parked)
    (after : JwksCache) : Prop where
  call_eq : parked.call = call
  admitted : HeaderAdmitted backend call parked.parsed
  evolves : Evolves publishesNothing before after
  /-- A refresh holds the reservation issued last and falls back to a rejection. -/
  reserved : ∀ reservationId cachedResult,
    parked.route = .refresh reservationId cachedResult →
      reservationId ≠ 0 ∧ reservationId = before.nextReservationId ∧
        reservationId < after.nextReservationId ∧ cachedResult ≠ .ok

/-- What a call that returns without a request has done. -/
structure Finished
    (backend : Backend)
    (call : Call)
    (before : JwksCache)
    (outcome : Outcome) : Prop where
  evolves : Evolves publishesNothing before outcome.cache
  accepted : outcome.verdict = .ok →
    ∃ parsed, HeaderAdmitted backend call parsed ∧
      ∃ k, StoredFor before call.jwksUri parsed.kid k ∧
        AcceptedBy backend call.token parsed.alg call.opts .ok k

/-- Either way a refresh begins, it rests on a rejection. -/
theorem beginRefresh_spec
    {cachedResult : VerifyResult}
    {cache : JwksCache}
    (admitted : HeaderAdmitted backend call parsed)
    (rejected : cachedResult ≠ .ok) :
    (∀ outcome, beginRefresh call parsed cachedResult cache = .finished outcome →
      Finished backend call cache outcome) ∧
    (∀ parked after, beginRefresh call parsed cachedResult cache =
        .fetching parked after →
      Fetching backend call cache parked after) := by
  have throttles : ∀ isBudget (reason : RefreshReason) (refused : JwksCache),
      Evolves publishesNothing cache refused →
      Finished backend call cache {
        verdict := cachedResult
        refresh := refreshEvent parsed.kid reason
        cache := (refused.incrementThrottledRefreshes isBudget
          call.opts.nowS).setLastRefreshReason reason.toString } := by
    intro isBudget reason refused evolves
    refine ⟨?_, fun accepts => absurd accepts rejected⟩
    refine evolves.trans ?_
    exact (incrementThrottledRefreshes_evolves isBudget call.opts.nowS refused).trans
      (setLastRefreshReason_evolves reason.toString _)
  have reserves := JwksCache.tryReserveRefresh_evolves parsed.kid call.opts.nowS
    call.jwksUri cache
  unfold beginRefresh
  dsimp only
  split
  · refine ⟨?_, fun parked after impossible => by cases impossible⟩
    rintro outcome ⟨⟩
    exact throttles true _ _ (Evolves.refl cache)
  · split
    · refine ⟨?_, fun parked after impossible => by cases impossible⟩
      rintro outcome ⟨⟩
      exact throttles false _ _ reserves
    · next granted =>
        refine ⟨fun outcome impossible => (by cases impossible), ?_⟩
        rintro parked after ⟨⟩
        obtain ⟨issued, counted⟩ := JwksCache.tryReserveRefresh_granted granted
        refine ⟨rfl, admitted, reserves.trans (recordJwksFetch_evolves _ _), ?_⟩
        rintro reservationId result ⟨⟩
        refine ⟨granted, issued, ?_, rejected⟩
        rw [JwksCache.nextReservationId_recordJwksFetch, counted, issued]
        exact Nat.lt_succ_self _

/-- The first piece of a call. -/
theorem beginValidation_spec
    (backend : Backend)
    (call : Call)
    (cache : JwksCache) :
    (∀ outcome, beginValidation backend call cache = .finished outcome →
      Finished backend call cache outcome) ∧
    (∀ parked after, beginValidation backend call cache = .fetching parked after →
      Fetching backend call cache parked after) := by
  have refuses : ∀ (verdict : VerifyResult) (refresh : RefreshEvent) (after : JwksCache),
      verdict ≠ .ok → Evolves publishesNothing cache after →
      (∀ outcome, Progress.finished { verdict, refresh, cache := after } =
          .finished outcome → Finished backend call cache outcome) ∧
      (∀ parked after', Progress.finished { verdict, refresh, cache := after } =
          .fetching parked after' → Fetching backend call cache parked after') := by
    intro verdict refresh after rejected evolves
    refine ⟨?_, fun parked after' impossible => by cases impossible⟩
    rintro outcome ⟨⟩
    exact ⟨evolves, fun accepts => absurd accepts rejected⟩
  unfold beginValidation
  dsimp only
  split
  · exact refuses _ _ _ (by decide) (Evolves.refl cache)
  · next parsed parses =>
      split
      · exact refuses _ _ _ (by decide) (Evolves.refl cache)
      · next algorithm =>
          split
          · exact refuses _ _ _ (by decide) (Evolves.refl cache)
          · next kid_ne =>
              have admitted : HeaderAdmitted backend call parsed := by
                simp only [Bool.or_eq_true, Bool.not_eq_true', not_or,
                  Bool.not_eq_true, Bool.not_eq_false] at algorithm
                exact ⟨parses, kid_ne, algorithm.1, algorithm.2⟩
              split
              · split
                · split
                  · refine ⟨?_, fun parked after impossible => by cases impossible⟩
                    rintro outcome ⟨⟩
                    refine ⟨Evolves.refl cache, fun accepts => ?_⟩
                    obtain ⟨k, member, accepted⟩ :=
                      verifyWithCachedKeys_matching_ok accepts
                    exact ⟨parsed, admitted, k, mem_keys_of_lookup_hit member, accepted⟩
                  · next unusable =>
                      refine beginRefresh_spec admitted fun accepts => unusable ?_
                      rw [accepts]
                      rfl
                · exact beginRefresh_spec admitted (by decide)
              · exact refuses _ _ _ (by decide)
                  (incrementThrottledRefreshes_evolves _ _ cache)
              · split
                · exact refuses _ _ _ (by decide) (Evolves.refl cache)
                · split
                  · exact refuses _ _ _ (by decide)
                      (incrementThrottledRefreshes_evolves _ _ cache)
                  · refine ⟨fun outcome impossible => (by cases impossible), ?_⟩
                    rintro parked after ⟨⟩
                    refine ⟨rfl, admitted, recordJwksFetch_evolves _ cache, ?_⟩
                    rintro reservationId result ⟨⟩

/-! ## From the response on -/

variable {parked : Parked} {response : Option Response}
variable {order : IterationOrder String (List Jwk)} {cache : JwksCache}

theorem readResponse_keys
    {keys : List Jwk}
    (read : readResponse backend response = .keys keys) :
    ∃ document, response = some document ∧ document.statusCode = 200 ∧
      parseJwksJson backend document.body = keys := by
  unfold readResponse at read
  split at read
  · cases read
  · next document =>
      split at read
      · cases read
      · next success =>
          split at read
          · cases read
          · next k rest parses =>
              cases read
              exact ⟨document, rfl, not_not.mp success, parses⟩

/-- What grouping and screening a document keep is published by it. -/
theorem published_of_mem_group
    {keys group : List Jwk}
    {kid : String}
    {k : Jwk}
    (read : readResponse backend response = .keys keys)
    (grouped : (groupSigningKeysByKid keys).lookup kid = some group)
    (member : k ∈ screenUsableKeys backend group) :
    Published backend response kid k := by
  obtain ⟨document, present, success, rfl⟩ := readResponse_keys read
  obtain ⟨inGroup, usable⟩ := mem_of_mem_screenUsableKeys member
  have sameGroup := lookup_groupSigningKeysByKid
    (parseJwksJson backend document.body) kid
  rw [grouped, Option.getD_some] at sameGroup
  rw [sameGroup, List.mem_filter, List.mem_filter] at inGroup
  obtain ⟨⟨parsed, signing⟩, kid_eq⟩ := inGroup
  exact ⟨⟨document, present, success, parsed⟩, of_decide_eq_true kid_eq, signing, usable⟩

/-- The document of a response is published for the kids that a test admits. -/
def publishesWhere
    (backend : Backend)
    (response : Option Response)
    (jwksUri : String)
    (admits : String → Prop)
    (key : String)
    (k : Jwk) : Prop :=
  ∃ kid, key = cacheKey jwksUri kid ∧ Published backend response kid k ∧ admits kid

/-- Ingesting one group of a document. -/
theorem ingestGroup_evolves
    {keys : List Jwk}
    {group : (_ : String) × List Jwk}
    {jwksUri : String}
    {admits : String → Prop}
    (nowS : Int)
    (read : readResponse backend response = .keys keys)
    (grouped : (groupSigningKeysByKid keys).lookup group.1 = some group.2)
    (admitted : admits group.1)
    {ingested : List Jwk}
    (ingests : ingested ⊆ screenUsableKeys backend group.2)
    (cache : JwksCache) :
    Evolves (publishesWhere backend response jwksUri admits) cache
      (cache.onPassiveFetchSuccess group.1 ingested nowS jwksUri) := by
  refine (JwksCache.onPassiveFetchSuccess_evolves _ _ _ _ cache).mono ?_
  rintro key k ⟨rfl, member⟩
  exact ⟨group.1, rfl, published_of_mem_group read grouped (ingests member), admitted⟩

variable (order) in
/-- Ingesting the siblings publishes for other kids than the target. -/
theorem ingestSiblingKeys_evolves
    {keys : List Jwk}
    (read : readResponse backend response = .keys keys)
    (targetKid : String)
    (nowS : Int)
    (jwksUri : String)
    (cache : JwksCache) :
    Evolves (publishesWhere backend response jwksUri (· ≠ targetKid)) cache
      (ingestSiblingKeys backend order (groupSigningKeysByKid keys) targetKid nowS
        jwksUri cache) := by
  unfold ingestSiblingKeys
  dsimp only
  have reconciled := JwksCache.reconcileAbsentKids_evolves
    ((groupSigningKeysByKid keys).keys.filter fun kid => kid ≠ "") jwksUri targetKid
    cache
  refine reconciled.of_nothing.trans ?_
  refine Evolves.foldl _ (fun cache group member => ?_) _
  obtain ⟨visited, isSibling⟩ := List.mem_filter.mp member
  exact ingestGroup_evolves nowS read (IterationOrder.mem_visit.mp visited)
    (of_decide_eq_true isSibling) (List.Subset.refl _) cache

/-! ### A refresh -/

/-- The keys a refresh commits for its kid; none if it commits nothing. -/
def committedKeys
    (backend : Backend)
    (parked : Parked)
    (reservationId : Nat)
    (keysByKid : UnorderedMap String (List Jwk))
    (cache : JwksCache) : Option (List Jwk) :=
  let kid := parked.parsed.kid
  let nowS := parked.call.opts.nowS
  let jwksUri := parked.call.jwksUri
  match keysByKid.lookup kid with
  | none => none
  | some group =>
      if screenUsableKeys backend group = [] then none
      else
        let candidates :=
          (commitCandidates backend parked group (cache.lookup kid nowS jwksUri).keys).1
        if (cache.commitRefresh kid reservationId candidates nowS jwksUri).1 then
          some candidates
        else none

theorem commitCandidates_subset
    (backend : Backend)
    (parked : Parked)
    (group liveKeys : List Jwk) :
    (commitCandidates backend parked group liveKeys).1 ⊆
      screenUsableKeys backend group := by
  have moved := (prioritizeMatchingKey_perm backend (screenUsableKeys backend group)
    parked.call.token parked.parsed.alg parked.call.opts).subset
  unfold commitCandidates
  dsimp only
  split
  · exact List.Subset.trans (prioritizeNewKeys_subset _ _) moved
  · exact moved

/-- A verdict found while ordering the candidates belongs to the first of them. -/
theorem commitCandidates_verified
    {group liveKeys : List Jwk}
    {verdict : VerifyResult}
    (verified : (commitCandidates backend parked group liveKeys).2 = some verdict) :
    ∃ k, (commitCandidates backend parked group liveKeys).1.head? = some k ∧
      AcceptedBy backend parked.call.token parked.parsed.alg parked.call.opts verdict
        k := by
  unfold commitCandidates at verified ⊢
  dsimp only at verified ⊢
  split at verified
  · next unverified =>
      dsimp only at verified
      rw [verified] at unverified
      cases unverified
  · next isVerified =>
      rw [if_neg isVerified]
      exact prioritizeMatchingKey_some verified

/-- What the commit attempt of a refresh does. -/
structure CommitAttempt
    (backend : Backend)
    (parked : Parked)
    (reservationId : Nat)
    (response : Option Response)
    (committed : Option (List Jwk))
    (before : JwksCache)
    (verified : Option VerifyResult)
    (after : JwksCache) : Prop where
  evolves : Evolves
    (publishesWhere backend response parked.call.jwksUri fun kid =>
      kid = parked.parsed.kid ∧ committed.isSome) before after
  commits : ∀ keys, committed = some keys →
    JwksCache.Committed parked.parsed.kid reservationId keys parked.call.opts.nowS
      parked.call.jwksUri before after
  verdict : ∀ verdict, verified = some verdict →
    ∃ k, StoredFor after parked.call.jwksUri parked.parsed.kid k ∧
      AcceptedBy backend parked.call.token parked.parsed.alg parked.call.opts verdict k

theorem mem_trimToCap_of_head?
    {keys : List Jwk}
    {k : Jwk}
    (front : keys.head? = some k) :
    k ∈ JwksCache.trimToCap keys := by
  cases keys with
  | nil => cases front
  | cons head rest =>
      cases front
      unfold JwksCache.trimToCap
      split
      · exact List.mem_cons_self
      · exact List.mem_cons_self

variable (parked) in
theorem commitTargetKid_spec
    {keys : List Jwk}
    (reservationId : Nat)
    (read : readResponse backend response = .keys keys)
    (cache : JwksCache) :
    CommitAttempt backend parked reservationId response
      (committedKeys backend parked reservationId (groupSigningKeysByKid keys) cache)
      cache
      (commitTargetKid backend parked reservationId (groupSigningKeysByKid keys) cache).1
      (commitTargetKid backend parked reservationId (groupSigningKeysByKid keys)
        cache).2.2 := by
  unfold commitTargetKid committedKeys
  dsimp only
  cases grouped : (groupSigningKeysByKid keys).lookup parked.parsed.kid with
  | none =>
      refine ⟨?_, fun keys none => (by cases none), fun verdict none => (by cases none)⟩
      exact (JwksCache.recordKidAbsent_evolves _ _ _ _ cache).of_nothing
  | some group =>
      by_cases unusable : screenUsableKeys backend group = []
      · simp only [if_pos unusable]
        exact ⟨Evolves.refl cache, fun keys none => (by cases none),
          fun verdict none => (by cases none)⟩
      · simp only [if_neg unusable, commitAndAudit]
        split
        · next succeeds =>
            have committed := JwksCache.commitRefresh_committed succeeds
            refine ⟨?_, ?_, ?_⟩
            · refine (JwksCache.commitRefresh_evolves _ _ _ _ _ cache).mono ?_
              rintro key k ⟨rfl, member⟩
              refine ⟨parked.parsed.kid, rfl, ?_, rfl, rfl⟩
              exact published_of_mem_group read grouped
                (commitCandidates_subset _ _ _ _ member)
            · rintro keys ⟨⟩
              exact committed
            · intro verdict verified
              simp only [succeeds, if_true] at verified
              obtain ⟨k, front, accepted⟩ := commitCandidates_verified verified
              obtain ⟨hit, found, stored, -⟩ := committed.stored
              refine ⟨k, ⟨hit, found, ?_⟩, accepted⟩
              rw [stored]
              exact mem_trimToCap_of_head? front
        · next fails =>
            rw [JwksCache.commitRefresh_superseded (Bool.eq_false_iff.mpr fails)]
            refine ⟨Evolves.refl cache, fun keys none => (by cases none), ?_⟩
            intro verdict verified
            simp only [fails, if_false, reduceCtorEq] at verified

/-- The cache right after the commit attempt of a refresh. -/
def cacheAfterCommit
    (backend : Backend)
    (parked : Parked)
    (reservationId : Nat)
    (response : Option Response)
    (cache : JwksCache) : JwksCache :=
  match readResponse backend response with
  | .keys keys =>
      (commitTargetKid backend parked reservationId (groupSigningKeysByKid keys)
        (cache.recordJwksFetchSuccess parked.call.opts.nowS parked.call.jwksUri)).2.2
  | _ => cache

/-- The keys a refresh commits when its response arrives. -/
def refreshCommits
    (backend : Backend)
    (parked : Parked)
    (reservationId : Nat)
    (response : Option Response)
    (cache : JwksCache) : Option (List Jwk) :=
  match readResponse backend response with
  | .keys keys =>
      committedKeys backend parked reservationId (groupSigningKeysByKid keys)
        (cache.recordJwksFetchSuccess parked.call.opts.nowS parked.call.jwksUri)
  | _ => none

theorem reverifyAfterCommit_ok
    {cachedVerified : Option VerifyResult}
    (accepts : reverifyAfterCommit backend parked cachedVerified cache = .ok) :
    cachedVerified = some .ok ∨
      ∃ k, StoredFor cache parked.call.jwksUri parked.parsed.kid k ∧
        AcceptedBy backend parked.call.token parked.parsed.alg parked.call.opts .ok k := by
  unfold reverifyAfterCommit at accepts
  split at accepts
  · next verdict => exact .inl (by rw [accepts])
  · dsimp only at accepts
    split at accepts
    · split at accepts
      · cases accepts
      · have selected : selectAndVerify backend parked.call.token parked.parsed.alg
            parked.call.opts (matchingKeys (cache.lookup parked.parsed.kid
              parked.call.opts.nowS parked.call.jwksUri).keys parked.parsed.alg) =
              some .ok := by
          rcases Option.getD_eq_iff.mp accepts with selected | ⟨-, impossible⟩
          · exact selected
          · cases impossible
        obtain ⟨k, member, accepted⟩ := selectAndVerify_some selected
        exact .inr ⟨k, mem_keys_of_lookup_hit (mem_matchingKeys.mp member).1, accepted⟩
    · cases accepts

/-- What a refresh does from its response on. -/
structure RefreshFinished
    (backend : Backend)
    (parked : Parked)
    (reservationId : Nat)
    (response : Option Response)
    (before : JwksCache)
    (outcome : Outcome) : Prop where
  /-- Its own kid is published for only by a commit. -/
  evolves : Evolves
    (publishesWhere backend response parked.call.jwksUri fun kid =>
      kid = parked.parsed.kid →
        (refreshCommits backend parked reservationId response before).isSome)
    before outcome.cache
  /-- A commit leaves the entry waiting for no refresh that was issued before. -/
  commits : ∀ keys, refreshCommits backend parked reservationId response before =
      some keys →
    reservationId ≠ 0 ∧
      (∃ hit, before.findHit parked.call.jwksUri parked.parsed.kid = some hit ∧
        hit.currentReservationId = reservationId) ∧
      ∀ issued, issued ≠ 0 → issued < before.nextReservationId →
        ∀ hit, outcome.cache.findHit parked.call.jwksUri parked.parsed.kid = some hit →
          hit.currentReservationId ≠ issued
  accepted : outcome.verdict = .ok →
    ∃ k, AcceptedBy backend parked.call.token parked.parsed.alg parked.call.opts .ok k ∧
      (StoredFor (cacheAfterCommit backend parked reservationId response before)
          parked.call.jwksUri parked.parsed.kid k ∨
        StoredFor outcome.cache parked.call.jwksUri parked.parsed.kid k)

theorem finishRefresh_spec
    {reservationId : Nat}
    {cachedResult : VerifyResult}
    (rejected : cachedResult ≠ .ok) :
    RefreshFinished backend parked reservationId response cache
      (finishRefresh backend parked reservationId cachedResult response order
        cache) := by
  have unread : ∀ event (reason : String),
      refreshCommits backend parked reservationId response cache = none →
      RefreshFinished backend parked reservationId response cache {
        verdict := cachedResult
        refresh := event
        cache := cache.setLastRefreshReason reason } := by
    intro event reason noCommit
    refine ⟨(setLastRefreshReason_evolves reason cache).of_nothing, ?_,
      fun accepts => absurd accepts rejected⟩
    intro keys commits
    cases noCommit.symm.trans commits
  unfold finishRefresh
  dsimp only
  split
  · next read => exact unread _ _ (by rw [refreshCommits, read])
  · next read => exact unread _ _ (by rw [refreshCommits, read])
  · next keys read =>
      have recorded := recordJwksFetchSuccess_evolves parked.call.opts.nowS
        parked.call.jwksUri cache
      have attempt := commitTargetKid_spec parked reservationId read
        (cache.recordJwksFetchSuccess parked.call.opts.nowS parked.call.jwksUri)
      have siblings := ingestSiblingKeys_evolves order read
        parked.parsed.kid parked.call.opts.nowS parked.call.jwksUri
        (commitTargetKid backend parked reservationId (groupSigningKeysByKid keys)
          (cache.recordJwksFetchSuccess parked.call.opts.nowS
            parked.call.jwksUri)).2.2
      have finished := siblings.trans (setLastRefreshReason_evolves
        (commitTargetKid backend parked reservationId (groupSigningKeysByKid keys)
          (cache.recordJwksFetchSuccess parked.call.opts.nowS
            parked.call.jwksUri)).2.1.reasonEnum.toString _).of_nothing
      have commits_eq : refreshCommits backend parked reservationId response cache =
          committedKeys backend parked reservationId (groupSigningKeysByKid keys)
            (cache.recordJwksFetchSuccess parked.call.opts.nowS
              parked.call.jwksUri) := by
        rw [refreshCommits, read]
      have after_eq : cacheAfterCommit backend parked reservationId response cache =
          (commitTargetKid backend parked reservationId (groupSigningKeysByKid keys)
            (cache.recordJwksFetchSuccess parked.call.opts.nowS
              parked.call.jwksUri)).2.2 := by
        rw [cacheAfterCommit, read]
      rw [← commits_eq] at attempt
      refine ⟨?_, ?_, ?_⟩
      · refine recorded.of_nothing.trans ((attempt.evolves.mono ?_).trans
          (finished.mono ?_))
        · rintro key k ⟨kid, rfl, published, -, committed⟩
          exact ⟨kid, rfl, published, fun _ => committed⟩
        · rintro key k ⟨kid, rfl, published, sibling⟩
          exact ⟨kid, rfl, published, fun target => absurd target sibling⟩
      · intro committed commits
        obtain ⟨granted, -, ⟨hit, found, awaited, -⟩, ⟨stored, present, -, released⟩⟩ :=
          attempt.commits committed commits
        rw [JwksCache.findHit, JwksCache.hits_recordJwksFetchSuccess] at found
        refine ⟨granted, ⟨hit, found, awaited⟩, ?_⟩
        intro issued issued_ne issued_lt
        have later := le_trans recorded.next_le attempt.evolves.next_le
        refine finished.reservation_ne issued_ne (lt_of_lt_of_le issued_lt later) ?_
        intro entry entryPresent
        cases present.symm.trans entryPresent
        rw [released]
        exact Ne.symm issued_ne
      · intro accepts
        rw [after_eq]
        rcases reverifyAfterCommit_ok accepts with verified | ⟨k, stored, accepted⟩
        · obtain ⟨k, stored, accepted⟩ := attempt.verdict _ verified
          exact ⟨k, accepted, .inl stored⟩
        · exact ⟨k, accepted, .inr stored⟩

/-! ### A cold fetch -/

/-- The key under which a document alone decides a cold call. -/
def documentKey
    (backend : Backend)
    (parked : Parked)
    (response : Option Response) : Option Jwk :=
  match parked.route, readResponse backend response with
  | .cold, .keys keys =>
      match (groupSigningKeysByKid keys).lookup parked.parsed.kid with
      | none => none
      | some group =>
          let (candidates, verified) := prioritizeMatchingKey backend
            (screenUsableKeys backend group) parked.call.token parked.parsed.alg
            parked.call.opts
          if verified.isSome then candidates.head? else none
  | _, _ => none

/-- The deciding key is published, and only cold calls have one. -/
theorem documentKey_some
    {k : Jwk}
    (decides : documentKey backend parked response = some k) :
    parked.route = .cold ∧ Published backend response parked.parsed.kid k := by
  unfold documentKey at decides
  split at decides
  · next keys route read =>
      split at decides
      · cases decides
      · next group grouped =>
          dsimp only at decides
          split at decides
          · refine ⟨route, published_of_mem_group read grouped ?_⟩
            exact (prioritizeMatchingKey_perm _ _ _ _ _).subset
              (List.mem_of_head? decides)
          · cases decides
  · cases decides

/-- The verdict a cold call takes from the document was found in its own group. -/
theorem foldl_ingestColdGroup_verified
    {groups : List ((_ : String) × List Jwk)}
    {verdict : VerifyResult}
    {start : Option VerifyResult × JwksCache}
    (verified : (groups.foldl (ingestColdGroup backend parked) start).1 = some verdict) :
    start.1 = some verdict ∨
      ∃ group ∈ groups, group.1 = parked.parsed.kid ∧
        (prioritizeMatchingKey backend (screenUsableKeys backend group.2)
          parked.call.token parked.parsed.alg parked.call.opts).2 = some verdict := by
  induction groups generalizing start with
  | nil => exact .inl verified
  | cons group groups inductionHypothesis =>
      rw [List.foldl_cons] at verified
      rcases inductionHypothesis verified with before | ⟨other, member, found⟩
      · unfold ingestColdGroup at before
        dsimp only at before
        split at before
        · exact .inl before
        · split at before
          · next isTarget =>
              rcases Option.or_eq_some_iff.mp before with found | ⟨-, earlier⟩
              · exact .inr ⟨group, List.mem_cons_self, isTarget, found⟩
              · exact .inl earlier
          · exact .inl before
      · exact .inr ⟨other, List.mem_cons_of_mem _ member, found⟩

variable (parked) in
theorem foldl_ingestColdGroup_evolves
    {keys : List Jwk}
    (groups : List ((_ : String) × List Jwk))
    (read : readResponse backend response = .keys keys)
    (grouped : ∀ group ∈ groups,
      (groupSigningKeysByKid keys).lookup group.1 = some group.2)
    (start : Option VerifyResult × JwksCache) :
    Evolves (publishesWhere backend response parked.call.jwksUri fun _ => True) start.2
      (groups.foldl (ingestColdGroup backend parked) start).2 := by
  induction groups generalizing start with
  | nil => exact Evolves.refl start.2
  | cons group groups inductionHypothesis =>
      rw [List.foldl_cons]
      refine Evolves.trans ?_ (inductionHypothesis
        (fun other member => grouped other (List.mem_cons_of_mem _ member)) _)
      have present := grouped group List.mem_cons_self
      unfold ingestColdGroup
      dsimp only
      split
      · exact Evolves.refl start.2
      · split
        · exact ingestGroup_evolves _ read present trivial
            (prioritizeMatchingKey_perm _ _ _ _ _).subset start.2
        · exact ingestGroup_evolves _ read present trivial (List.Subset.refl _) start.2

/-- What a cold call does from its response on. -/
structure ColdFinished
    (backend : Backend)
    (parked : Parked)
    (response : Option Response)
    (before : JwksCache)
    (outcome : Outcome) : Prop where
  evolves : Evolves
    (publishesWhere backend response parked.call.jwksUri fun _ => True)
    before outcome.cache
  accepted : outcome.verdict = .ok →
    ∃ k, AcceptedBy backend parked.call.token parked.parsed.alg parked.call.opts .ok k ∧
      ((documentKey backend parked response = some k ∧
          Published backend response parked.parsed.kid k) ∨
        StoredFor outcome.cache parked.call.jwksUri parked.parsed.kid k)

theorem verdictWithoutHit_ne_ok
    (kid : String)
    (keys : List Jwk)
    (keysByKid : UnorderedMap String (List Jwk)) :
    verdictWithoutHit backend kid keys keysByKid ≠ .ok := by
  unfold verdictWithoutHit
  split
  · dsimp only
    split <;> decide
  · split <;> decide

theorem finishCold_spec
    (isCold : parked.route = .cold) :
    ColdFinished backend parked response cache
      (finishCold backend parked response order cache) := by
  unfold finishCold
  dsimp only
  split
  · exact ⟨Evolves.refl cache, fun accepts => (by cases accepts)⟩
  · exact ⟨(JwksCache.onFetchMiss_evolves _ _ _ cache).of_nothing,
      fun accepts => (by cases accepts)⟩
  · next keys read =>
      have recorded := recordJwksFetchSuccess_evolves parked.call.opts.nowS
        parked.call.jwksUri cache
      have ingested := foldl_ingestColdGroup_evolves parked
        (order.visit (groupSigningKeysByKid keys)) read
        (fun group member => IterationOrder.mem_visit.mp member)
        (none, cache.recordJwksFetchSuccess parked.call.opts.nowS parked.call.jwksUri)
      have evolves := recorded.of_nothing.trans ingested
      split
      · exact ⟨evolves.trans (JwksCache.onFetchMiss_evolves _ _ _ _).of_nothing,
          fun accepts => absurd accepts (verdictWithoutHit_ne_ok _ _ _)⟩
      · split
        · next verdict coldVerified =>
            refine ⟨evolves, fun accepts => ?_⟩
            have coldVerified := (Option.filter_eq_some_iff.mp coldVerified).1
            rcases foldl_ingestColdGroup_verified coldVerified with
              none | ⟨group, visited, isTarget, verified⟩
            · cases none
            · have grouped := IterationOrder.mem_visit.mp visited
              obtain ⟨k, front, accepted⟩ := prioritizeMatchingKey_some verified
              rw [isTarget] at grouped
              have member := (prioritizeMatchingKey_perm _ _ _ _ _).subset
                (List.mem_of_head? front)
              cases accepts
              refine ⟨k, accepted, .inl ⟨?_, published_of_mem_group read grouped member⟩⟩
              rw [documentKey, isCold, read]
              simp only [grouped, verified, Option.isSome_some, if_true]
              exact front
        · refine ⟨evolves, fun accepts => ?_⟩
          obtain ⟨k, member, accepted⟩ := verifyAgainstCachedKid_ok accepts
          exact ⟨k, accepted, .inr (mem_keys_of_lookup_hit member)⟩

end Validator
end QuackOauth
