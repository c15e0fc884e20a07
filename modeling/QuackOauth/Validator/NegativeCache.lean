import QuackOauth.Validator.Ingest
import QuackOauth.Validator.Refresh

/-!
# No negative verdict on a usable key

A cold call reads its verdict back from the cache, after every kid of the document was
ingested.  If the token's kid keeps its place there, and one of its keys verifies the token
or one that is kept is meant by the header, the token gets the verdict of its keys.
Otherwise the call records a miss, or says that no key matches, although the document has
a usable key for the token.
-/

namespace QuackOauth
namespace Validator

open Lib Jwks Jwt

/-! ## Verdicts on usable keys -/

/-- A verdict that says that there is no key for the token. -/
def isNegative (verdict : VerifyResult) : Bool :=
  verdict = .unknownKid || verdict = .unusableKey || verdict = .noMatchingKey

theorem mapVerificationError_notNegative (error : TokenVerificationError) :
    isNegative (mapVerificationError error) = false := by
  cases error <;> rfl

theorem verifyWithVerifier_notNegative
    (backend : Backend)
    (token : String)
    (decoded : DecodedJwt)
    (pem alg : String)
    (opts : VerifyOptions) :
    isNegative (verifyWithVerifier backend token decoded pem alg opts) = false := by
  unfold verifyWithVerifier
  split
  · rfl
  · dsimp only
    split
    · rfl
    · rfl
    · rfl
    · split
      · split <;> rfl
      · rfl
    · exact mapVerificationError_notNegative _

/-- A usable key gives a verdict of its own. -/
theorem verifyJwt_notNegative
    {backend : Backend}
    {k : Jwk}
    (usable : isUsableSigningKey backend k = true)
    (token : String)
    (opts : VerifyOptions) :
    isNegative (verifyJwt backend token k opts) = false := by
  obtain ⟨pem, converts⟩ := jwkToPem_of_isUsableSigningKey usable
  unfold verifyJwt
  rw [converts]
  split
  · rfl
  · split
    · rfl
    · dsimp only
      split
      · rfl
      · exact verifyWithVerifier_notNegative _ _ _ _ _ _

theorem verifyWithCachedKeysLoop_notNegative
    {backend : Backend}
    {token : String}
    {opts : VerifyOptions}
    {tried : List Jwk}
    {allUnsupported sawInvalidSig : Bool}
    {fallbackFailure : VerifyResult}
    (usable : ∀ k ∈ tried, isUsableSigningKey backend k = true)
    (fallback : isNegative fallbackFailure = false) :
    isNegative (verifyWithCachedKeysLoop backend token opts tried allUnsupported
      sawInvalidSig fallbackFailure) = false := by
  induction tried generalizing allUnsupported sawInvalidSig fallbackFailure with
  | nil =>
      unfold verifyWithCachedKeysLoop
      split
      · rfl
      · split
        · rfl
        · exact fallback
  | cons k rest inductionHypothesis =>
      have own := verifyJwt_notNegative (usable k List.mem_cons_self) token opts
      have later : ∀ other ∈ rest, isUsableSigningKey backend other = true :=
        fun other member => usable other (List.mem_cons_of_mem _ member)
      unfold verifyWithCachedKeysLoop
      dsimp only
      split
      · exact own
      · split
        · exact inductionHypothesis later fallback
        · split
          · exact inductionHypothesis later own
          · exact inductionHypothesis later fallback

/-- Some usable keys give a verdict of their own. -/
theorem verifyWithCachedKeys_notNegative
    {backend : Backend}
    {tried : List Jwk}
    (nonempty : tried ≠ [])
    (usable : ∀ k ∈ tried, isUsableSigningKey backend k = true)
    (token : String)
    (opts : VerifyOptions) :
    isNegative (verifyWithCachedKeys backend token tried opts) = false := by
  unfold verifyWithCachedKeys
  rw [if_neg nonempty]
  exact verifyWithCachedKeysLoop_notNegative usable rfl

/-! ## When the verdict is not negative -/

/-- A key of a document that serves a token: usable, of its kid, and meant by its
header. -/
structure Serves
    (backend : Backend)
    (parked : Parked)
    (keys : List Jwk)
    (k : Jwk) : Prop where
  listed : k ∈ keys
  kid_eq : k.kid = parked.parsed.kid
  usable : isUsableSigningKey backend k = true
  matching : jwkMatchesTokenHeader k parked.parsed.alg = true

/-- The keys of the kids with a usable key, in the order in which they are visited. -/
def visitedKeys
    (backend : Backend)
    (jwksUri : String)
    (groups : List ((_ : String) × List Jwk)) : List String :=
  (groups.filter fun group => screenUsableKeys backend group.2 ≠ []).map fun group =>
    cacheKey jwksUri group.1

/-- The kid of the token is still cached when its turn comes. -/
def StillCached
    (backend : Backend)
    (parked : Parked)
    (earlier : List ((_ : String) × List Jwk))
    (cache : JwksCache) : Prop :=
  Lru.Remains cache.maxEntries.1 cache.hitLru.values
    (Lru.arrivals cache.maxEntries.1 cache.hitLru.values
      (visitedKeys backend parked.call.jwksUri earlier))
    (cacheKey parked.call.jwksUri parked.parsed.kid)

instance
    (backend : Backend)
    (parked : Parked)
    (earlier : List ((_ : String) × List Jwk))
    (cache : JwksCache) :
    Decidable (StillCached backend parked earlier cache) :=
  inferInstanceAs (Decidable (Lru.Remains _ _ _ _))

/-- The keys a kid is left with: the first four usable ones of the document, or, if the
kid is still cached, the last four of the cached keys followed by the new ones. -/
def keptKeys
    (backend : Backend)
    (parked : Parked)
    (keys : List Jwk)
    (earlier : List ((_ : String) × List Jwk))
    (cache : JwksCache) : List Jwk :=
  let usable := usableKeys backend keys parked.parsed.kid
  match cache.findHit parked.call.jwksUri parked.parsed.kid with
  | some hit =>
      if StillCached backend parked earlier cache then
        let all := hit.keys ++ newMaterial hit.keys usable
        all.drop (all.length - kMaxKeysPerKid)
      else usable.take kMaxKeysPerKid
  | none => usable.take kMaxKeysPerKid

/-- A call records no miss and gives no negative verdict.  If a key of the document that
serves the token verifies it, the verdict is that under a key that verifies it, and
otherwise that under all cached keys of the kid that the header may mean. -/
structure NotNegative
    (backend : Backend)
    (parked : Parked)
    (keys : List Jwk)
    (before : JwksCache)
    (outcome : Outcome) : Prop where
  noMiss : ∀ miss,
    outcome.cache.findMiss parked.call.jwksUri parked.parsed.kid = some miss →
      before.findMiss parked.call.jwksUri parked.parsed.kid = some miss
  notNegative : isNegative outcome.verdict = false
  signed : (∃ k, Serves backend parked keys k ∧ verifiesToken backend parked k = true) →
    ∃ k, (Serves backend parked keys k ∨
        StoredFor outcome.cache parked.call.jwksUri parked.parsed.kid k) ∧
      verifiesToken backend parked k = true ∧
      outcome.verdict = verifyJwt backend parked.call.token k parked.call.opts
  unsigned : (∀ k, Serves backend parked keys k → verifiesToken backend parked k = false) →
    ∃ hit, outcome.cache.findHit parked.call.jwksUri parked.parsed.kid = some hit ∧
      matchingKeys hit.keys parked.parsed.alg ≠ [] ∧
      outcome.verdict = verifyWithCachedKeys backend parked.call.token
        (matchingKeys hit.keys parked.parsed.alg) parked.call.opts

/-- The token's kid keeps its place among the kids that are visited, and a usable key of
the document verifies the token or a key that is kept is meant by the header. -/
def KeepsKid
    (backend : Backend)
    (parked : Parked)
    (keys : List Jwk)
    (groups : List ((_ : String) × List Jwk))
    (cache : JwksCache) : Prop :=
  let earlier := groups.takeWhile fun group => group.1 ≠ parked.parsed.kid
  let later := (groups.dropWhile fun group => group.1 ≠ parked.parsed.kid).tail
  Lru.KeepsPlace cache.maxEntries.1 cache.hitLru.values
      (visitedKeys backend parked.call.jwksUri earlier)
      (cacheKey parked.call.jwksUri parked.parsed.kid)
      (visitedKeys backend parked.call.jwksUri later) ∧
    ((∃ k ∈ usableKeys backend keys parked.parsed.kid,
        verifiesToken backend parked k = true) ∨
      ∃ k ∈ keptKeys backend parked keys earlier cache,
        jwkMatchesTokenHeader k parked.parsed.alg = true)

instance
    (backend : Backend)
    (parked : Parked)
    (keys : List Jwk)
    (groups : List ((_ : String) × List Jwk))
    (cache : JwksCache) :
    Decidable (KeepsKid backend parked keys groups cache) :=
  inferInstanceAs (Decidable (_ ∧ _))

variable {backend : Backend} {parked : Parked} {cache : JwksCache} {keys : List Jwk}
variable {earlier later groups : List ((_ : String) × List Jwk)} {outcome : Outcome}
variable {response : Option Response} {order : IterationOrder String (List Jwk)}

/-! ## The keys of the document -/

theorem serves_of_mem_usableKeys
    {k : Jwk}
    (member : k ∈ usableKeys backend keys parked.parsed.kid)
    (matching : jwkMatchesTokenHeader k parked.parsed.alg = true) :
    Serves backend parked keys k := by
  obtain ⟨listed, usable⟩ := mem_of_mem_screenUsableKeys member
  obtain ⟨inDocument, -, kid_eq⟩ := mem_listedKeys.mp listed
  exact ⟨inDocument, kid_eq, usable, matching⟩

/-- Of the keys of one material that serve a token, one is kept by the screening. -/
theorem Serves.exists_usable
    {k : Jwk}
    (serves : Serves backend parked keys k) :
    ∃ first ∈ usableKeys backend keys parked.parsed.kid, sameKeyMaterial first k = true := by
  have signing := serves.matching
  rw [jwkMatchesTokenHeader, Bool.and_eq_true] at signing
  have listed : k ∈ listedKeys keys parked.parsed.kid :=
    mem_listedKeys.mpr ⟨serves.listed, signing.1, serves.kid_eq⟩
  exact holdsMaterial_iff.mp (holdsMaterial_screenUsableKeys listed serves.usable)

/-- A document with a key for the token has a usable group for its kid. -/
theorem usableKeys_ne_nil_of_serves
    {k : Jwk}
    (serves : Serves backend parked keys k) :
    usableKeys backend keys parked.parsed.kid ≠ [] := by
  obtain ⟨first, member, -⟩ := serves.exists_usable
  exact List.ne_nil_of_mem member

/-- A key of the document verifies the token exactly if one that passed the screening
does. -/
theorem serves_verifies_iff :
    (∃ k, Serves backend parked keys k ∧ verifiesToken backend parked k = true) ↔
      ∃ k ∈ usableKeys backend keys parked.parsed.kid,
        verifiesToken backend parked k = true := by
  constructor
  · rintro ⟨k, serves, verifies⟩
    obtain ⟨first, member, same⟩ := serves.exists_usable
    exact ⟨first, member, (verifiesToken_eq_of_sameKeyMaterial same).trans verifies⟩
  · rintro ⟨k, member, verifies⟩
    have matching := (Bool.and_eq_true _ _).mp verifies
    exact ⟨k, serves_of_mem_usableKeys member matching.1, verifies⟩

/-- Unless one of several usable keys verifies the token, they stay in their order. -/
theorem offeredKeys_of_unmoved
    (unmoved : (usableKeys backend keys parked.parsed.kid).length ≤ 1 ∨
      ∀ k ∈ usableKeys backend keys parked.parsed.kid,
        verifiesToken backend parked k = false) :
    offeredKeys backend parked keys =
      (usableKeys backend keys parked.parsed.kid, none) := by
  rw [offeredKeys, prioritizeMatchingKey_eq]
  split
  · rfl
  · next several =>
      have notFound : (usableKeys backend keys parked.parsed.kid).findIdx?
          (verifiesToken backend parked) = none :=
        List.findIdx?_eq_none_iff.mpr (unmoved.resolve_left several)
      rw [notFound]

/-- If one of several usable keys verifies the token, the call has its verdict. -/
theorem offeredKeys_of_verified
    (several : 1 < (usableKeys backend keys parked.parsed.kid).length)
    (verified : ∃ k ∈ usableKeys backend keys parked.parsed.kid,
      verifiesToken backend parked k = true) :
    ∃ verdict, (offeredKeys backend parked keys).2 = some verdict := by
  obtain ⟨k, member, verifies⟩ := verified
  rw [offeredKeys, prioritizeMatchingKey_eq, if_neg (Nat.not_le_of_lt several)]
  cases first : (usableKeys backend keys parked.parsed.kid).findIdx?
      (verifiesToken backend parked) with
  | none =>
      have contrary := List.findIdx?_eq_none_iff.mp first k member
      rw [verifies] at contrary
      cases contrary
  | some index =>
      have inBounds := (List.findIdx?_eq_some_iff_findIdx_eq.mp first).1
      exact ⟨_, congrArg (Option.map _) (List.getElem?_eq_getElem inBounds)⟩

/-! ## The place of the kid -/

theorem recencyAfter_eq_foldl {jwksUri : String} {limit : Nat} {recent : List String} :
    recencyAfter backend jwksUri limit groups recent =
      (visitedKeys backend jwksUri groups).foldl (Lru.keysAfter limit) recent := by
  induction groups generalizing recent with
  | nil => rfl
  | cons group groups inductionHypothesis =>
      unfold recencyAfter visitedKeys at inductionHypothesis ⊢
      rw [List.foldl_cons, inductionHypothesis, List.filter_cons]
      by_cases unusable : screenUsableKeys backend group.2 = []
      · simp [unusable]
      · simp [unusable]

theorem visitedKeys_split
    {kid : String}
    (usable : usableKeys backend keys kid ≠ [])
    (jwksUri : String) :
    visitedKeys backend jwksUri (earlier ++ ⟨kid, listedKeys keys kid⟩ :: later) =
      visitedKeys backend jwksUri earlier ++
        cacheKey jwksUri kid :: visitedKeys backend jwksUri later := by
  have screened : screenUsableKeys backend (listedKeys keys kid) ≠ [] := usable
  simp [visitedKeys, screened]

/-- The kids of a document have keys of their own in the cache. -/
theorem nodup_visitedKeys
    (backend : Backend)
    (jwksUri : String)
    (distinct : (groups.map Sigma.fst).Nodup) :
    (visitedKeys backend jwksUri groups).Nodup := by
  have visited : (groups.filter fun group =>
      screenUsableKeys backend group.2 ≠ []).map Sigma.fst |>.Nodup :=
    distinct.sublist (List.filter_sublist.map _)
  have keys_eq : visitedKeys backend jwksUri groups =
      ((groups.filter fun group => screenUsableKeys backend group.2 ≠ []).map
        Sigma.fst).map (cacheKey jwksUri) := by
    rw [List.map_map]
    rfl
  rw [keys_eq]
  exact visited.map (cacheKey_injective jwksUri)

/-- The recency list is no longer than the capacity. -/
theorem length_hitLru_le (consistent : cache.Consistent) :
    cache.hitLru.values.length ≤ cache.maxEntries.1 := by
  rw [consistent.hits.length_values]
  exact consistent.hits_le

/-- The token's kid is still a recent one exactly if it kept its place. -/
theorem mem_recencyAfter_iff
    (consistent : cache.Consistent)
    (usable : usableKeys backend keys parked.parsed.kid ≠ [])
    (groups_eq : groups = earlier ++
      ⟨parked.parsed.kid, listedKeys keys parked.parsed.kid⟩ :: later)
    (distinct : (groups.map Sigma.fst).Nodup) :
    cacheKey parked.call.jwksUri parked.parsed.kid ∈
        recencyAfter backend parked.call.jwksUri cache.maxEntries.1 groups
          cache.hitLru.values ↔
      Lru.KeepsPlace cache.maxEntries.1 cache.hitLru.values
        (visitedKeys backend parked.call.jwksUri earlier)
        (cacheKey parked.call.jwksUri parked.parsed.kid)
        (visitedKeys backend parked.call.jwksUri later) := by
  have visited := nodup_visitedKeys backend parked.call.jwksUri distinct
  rw [groups_eq, visitedKeys_split usable] at visited
  rw [recencyAfter_eq_foldl, groups_eq, visitedKeys_split usable]
  exact Lru.mem_foldl_keysAfter_iff (length_hitLru_le consistent) visited

/-- The token's kid is still cached when its turn comes exactly if it is a recent one
then. -/
theorem stillCached_iff
    (backend : Backend)
    (parked : Parked)
    (consistent : cache.Consistent)
    (distinct : (earlier.map Sigma.fst).Nodup)
    (others : ∀ group ∈ earlier, group.1 ≠ parked.parsed.kid) :
    cacheKey parked.call.jwksUri parked.parsed.kid ∈
        recencyAfter backend parked.call.jwksUri cache.maxEntries.1 earlier
          cache.hitLru.values ↔
      StillCached backend parked earlier cache := by
  rw [recencyAfter_eq_foldl]
  apply Lru.mem_foldl_keysAfter_of_other_iff (length_hitLru_le consistent)
    (nodup_visitedKeys _ _ distinct)
  intro visited
  obtain ⟨group, member, same⟩ := List.mem_map.mp visited
  exact others group (List.mem_of_mem_filter member) (cacheKey_injective _ same)

/-! ## The keys that are kept -/

/-- Keys that stay in their order are kept as the document lists them. -/
theorem storedKeys_eq_keptKeys
    (unmoved : (offeredKeys backend parked keys).1 =
      usableKeys backend keys parked.parsed.kid)
    (stillCached_iff : cacheKey parked.call.jwksUri parked.parsed.kid ∈
        recencyAfter backend parked.call.jwksUri cache.maxEntries.1 earlier
          cache.hitLru.values ↔
      StillCached backend parked earlier cache) :
    storedKeys backend parked keys earlier cache =
      keptKeys backend parked keys earlier cache := by
  unfold storedKeys keptKeys JwksCache.findHit
  dsimp only
  simp only [unmoved, stillCached_iff]
  cases cache.hits.lookup (cacheKey parked.call.jwksUri parked.parsed.kid) with
  | none =>
      rw [ite_self]
      exact trimToCap_eq_take _
  | some hit =>
      by_cases still : StillCached backend parked earlier cache
      · have distinct : DistinctMaterial (usableKeys backend keys parked.parsed.kid) :=
          distinctMaterial_screenUsableKeys _
        simp only [if_pos still]
        rw [unionKeys_eq_append distinct]
        rfl
      · simp only [if_neg still]
        exact trimToCap_eq_take _

/-- The only usable key of a document is kept, or a cached one of its material. -/
theorem exists_verifying_keptKeys
    (earlier : List ((_ : String) × List Jwk))
    (single : (usableKeys backend keys parked.parsed.kid).length ≤ 1)
    (verified : ∃ k ∈ usableKeys backend keys parked.parsed.kid,
      verifiesToken backend parked k = true)
    (few : ∀ hit, cache.findHit parked.call.jwksUri parked.parsed.kid = some hit →
      hit.keys.length ≤ kMaxKeysPerKid) :
    ∃ k ∈ keptKeys backend parked keys earlier cache,
      verifiesToken backend parked k = true := by
  obtain ⟨k, member, verifies⟩ := verified
  obtain ⟨only, usable_eq⟩ :=
    List.length_eq_one_iff.mp (le_antisymm single (List.length_pos_of_mem member))
  rw [usable_eq, List.mem_singleton] at member
  subst member
  unfold keptKeys
  rw [usable_eq]
  dsimp only
  split
  · next hit found =>
      split
      · have length_le := few hit found
        by_cases held : holdsMaterial hit.keys k = true
        · -- Nothing is new, and the cached key of the same material stays.
          obtain ⟨existing, existingMember, same⟩ := holdsMaterial_iff.mp held
          refine ⟨existing, ?_, (verifiesToken_eq_of_sameKeyMaterial same).trans verifies⟩
          have nothingNew : newMaterial hit.keys [k] = [] := by
            simp [newMaterial, Distinct.newcomers, ← holdsMaterial_eq, held]
          rw [nothingNew, List.append_nil, Nat.sub_eq_zero_of_le length_le, List.drop_zero]
          exact existingMember
        · have isNew : newMaterial hit.keys [k] = [k] := by
            simp [newMaterial, Distinct.newcomers, ← holdsMaterial_eq, held]
          refine ⟨k, ?_, verifies⟩
          rw [isNew, List.drop_append_of_le_length]
          · exact List.mem_append_right _ (List.mem_singleton_self k)
          · rw [List.length_append, List.length_singleton, kMaxKeysPerKid]
            omega
      · exact ⟨k, List.mem_singleton_self k, verifies⟩
  · exact ⟨k, List.mem_singleton_self k, verifies⟩

/-! ## The verdict -/

/-- Without room for the kid, a miss is recorded. -/
theorem not_notNegative_onFetchMiss
    {recorded : JwksCache}
    {verdict : VerifyResult}
    {refresh : RefreshEvent}
    (consistent : cache.Consistent)
    (ingested : recorded.Consistent)
    (sameNode : recorded.missLru.nextNode = cache.missLru.nextNode) :
    ¬NotNegative backend parked keys cache
      { verdict
        refresh
        cache := recorded.onFetchMiss parked.parsed.kid parked.call.opts.nowS
          parked.call.jwksUri } := by
  intro spared
  have stored := spared.noMiss _ (findMiss_onFetchMiss ingested)
  have older := consistent.misses.node_lt stored
  rw [sameNode] at older
  exact lt_irrefl _ older

/-- Keys of which some verify the token give the verdict under one of these. -/
theorem verdict_of_verifying
    {stored : List Jwk}
    (verified : ∃ k ∈ stored, verifiesToken backend parked k = true) :
    ∃ k ∈ stored, verifiesToken backend parked k = true ∧
      verifyAgainstCachedKid backend parked.call.token parked.parsed.alg stored
        parked.call.opts = verifyJwt backend parked.call.token k parked.call.opts := by
  obtain ⟨k, member, verifies⟩ := verified
  obtain ⟨nonempty, decider, deciderMember, matching, signature, verdict_eq⟩ :=
    verifyWithCachedKeys_matching_of_signature
      ⟨k, member, (Bool.and_eq_true _ _).mp verifies⟩
  refine ⟨decider, deciderMember, ?_, ?_⟩
  · exact (Bool.and_eq_true _ _).mpr ⟨matching, signature⟩
  · rw [verifyAgainstCachedKid, if_neg nonempty]
    exact verdict_eq

/-- The verdict of the keys that are stored for the kid, if the header may mean one of
them, and one of them verifies the token if a key of the document does. -/
theorem notNegative_of_stored
    {stored : List Jwk}
    (printable : '\n' ∉ parked.parsed.kid.toList)
    (certified : HoldsCertified backend outcome.cache)
    (cached : ∃ hit, outcome.cache.findHit parked.call.jwksUri parked.parsed.kid =
      some hit ∧ hit.keys = stored)
    (some_matching : matchingKeys stored parked.parsed.alg ≠ [])
    (verifying : (∃ k, Serves backend parked keys k ∧ verifiesToken backend parked k = true) →
      ∃ k ∈ stored, verifiesToken backend parked k = true)
    (verdict_eq : outcome.verdict = verifyAgainstCachedKid backend parked.call.token
      parked.parsed.alg stored parked.call.opts)
    (noMiss : ∀ miss,
      outcome.cache.findMiss parked.call.jwksUri parked.parsed.kid = some miss →
        cache.findMiss parked.call.jwksUri parked.parsed.kid = some miss) :
    NotNegative backend parked keys cache outcome := by
  obtain ⟨hit, found, rfl⟩ := cached
  have tried_eq : outcome.verdict = verifyWithCachedKeys backend parked.call.token
      (matchingKeys hit.keys parked.parsed.alg) parked.call.opts :=
    verdict_eq.trans (if_neg some_matching)
  refine ⟨noMiss, ?_, fun verified => ?_, fun _ => ⟨hit, found, some_matching, tried_eq⟩⟩
  · rw [tried_eq]
    apply verifyWithCachedKeys_notNegative some_matching
    intro k member
    have storedFor : StoredFor outcome.cache parked.call.jwksUri parked.parsed.kid k :=
      ⟨hit, found, (mem_matchingKeys.mp member).1⟩
    exact (certified.of_storedFor printable storedFor).2.2
  · obtain ⟨k, member, verifies, decided⟩ := verdict_of_verifying (verifying verified)
    exact ⟨k, .inr ⟨hit, found, member⟩, verifies, verdict_eq.trans decided⟩

/-- The verdict under the key that was moved to the front is the verdict on this key. -/
theorem notNegative_of_offered
    (verified : (offeredKeys backend parked keys).2 = some outcome.verdict)
    (noMiss : ∀ miss,
      outcome.cache.findMiss parked.call.jwksUri parked.parsed.kid = some miss →
        cache.findMiss parked.call.jwksUri parked.parsed.kid = some miss) :
    NotNegative backend parked keys cache outcome := by
  have signature := offeredKeys_signature verified
  obtain ⟨k, front, matching, verdict_eq⟩ := prioritizeMatchingKey_some verified
  have offered : k ∈ usableKeys backend keys parked.parsed.kid :=
    (prioritizeMatchingKey_perm _ _ _ _ _).subset (List.mem_of_head? front)
  have serves := serves_of_mem_usableKeys offered matching
  have verifies : verifiesToken backend parked k = true := by
    rw [← verdict_eq] at signature
    exact (Bool.and_eq_true _ _).mpr ⟨matching, signature⟩
  refine ⟨noMiss, ?_, fun _ => ⟨k, .inl serves, verifies, verdict_eq.symm⟩, ?_⟩
  · cases verdict : outcome.verdict <;> simp_all [isNegative, signatureMatchesCandidate]
  · intro unverified
    have contrary := unverified k serves
    rw [verifies] at contrary
    cases contrary

/-- The parts of the visit around the token's kid. -/
theorem keepsKid_iff
    (consistent : cache.Consistent)
    (usable : usableKeys backend keys parked.parsed.kid ≠ [])
    (distinct : (groups.map Sigma.fst).Nodup)
    (groups_eq : groups =
      (groups.takeWhile fun group => group.1 ≠ parked.parsed.kid) ++
        ⟨parked.parsed.kid, listedKeys keys parked.parsed.kid⟩ :: later) :
    KeepsKid backend parked keys groups cache ↔
      cacheKey parked.call.jwksUri parked.parsed.kid ∈
          recencyAfter backend parked.call.jwksUri cache.maxEntries.1 groups
            cache.hitLru.values ∧
        ((∃ k ∈ usableKeys backend keys parked.parsed.kid,
            verifiesToken backend parked k = true) ∨
          ∃ k ∈ keptKeys backend parked keys
              (groups.takeWhile fun group => group.1 ≠ parked.parsed.kid) cache,
            jwkMatchesTokenHeader k parked.parsed.alg = true) := by
  have whole : (groups.takeWhile fun group => group.1 ≠ parked.parsed.kid) ++
      (groups.dropWhile fun group => group.1 ≠ parked.parsed.kid) = groups :=
    List.takeWhile_append_dropWhile
  have later_eq : (groups.dropWhile fun group => group.1 ≠ parked.parsed.kid) =
      ⟨parked.parsed.kid, listedKeys keys parked.parsed.kid⟩ :: later :=
    List.append_cancel_left (whole.trans groups_eq)
  rw [KeepsKid, later_eq, List.tail_cons,
    mem_recencyAfter_iff consistent usable groups_eq distinct]

/-- A cold call whose kid has room gives no negative verdict exactly if a usable key
verifies the token or a kept one is meant by the header. -/
theorem notNegative_of_room_iff
    (certified : HoldsCertified backend outcome.cache)
    (few : ∀ hit, cache.findHit parked.call.jwksUri parked.parsed.kid = some hit →
      hit.keys.length ≤ kMaxKeysPerKid)
    (printable : '\n' ∉ parked.parsed.kid.toList)
    (stored_eq : (offeredKeys backend parked keys).1 =
        usableKeys backend keys parked.parsed.kid →
      storedKeys backend parked keys earlier cache =
        keptKeys backend parked keys earlier cache)
    (cached : ∃ hit, outcome.cache.findHit parked.call.jwksUri parked.parsed.kid =
      some hit ∧ hit.keys = storedKeys backend parked keys earlier cache)
    (verdict_eq : outcome.verdict = (offeredKeys backend parked keys).2.getD
      (verifyAgainstCachedKid backend parked.call.token parked.parsed.alg
        (storedKeys backend parked keys earlier cache) parked.call.opts))
    (noMiss : ∀ miss,
      outcome.cache.findMiss parked.call.jwksUri parked.parsed.kid = some miss →
        cache.findMiss parked.call.jwksUri parked.parsed.kid = some miss) :
    NotNegative backend parked keys cache outcome ↔
      (∃ k ∈ usableKeys backend keys parked.parsed.kid,
          verifiesToken backend parked k = true) ∨
        ∃ k ∈ keptKeys backend parked keys earlier cache,
          jwkMatchesTokenHeader k parked.parsed.alg = true := by
  by_cases verified : ∃ k ∈ usableKeys backend keys parked.parsed.kid,
      verifiesToken backend parked k = true
  · refine iff_of_true ?_ (.inl verified)
    by_cases several : 1 < (usableKeys backend keys parked.parsed.kid).length
    · obtain ⟨verdict, offered⟩ := offeredKeys_of_verified several verified
      rw [offered] at verdict_eq
      exact notNegative_of_offered (offered.trans (congrArg some verdict_eq.symm)) noMiss
    · -- The only key is not moved, and the verdict comes from the cache.
      have single := Nat.le_of_not_lt several
      have offered := offeredKeys_of_unmoved (.inl single)
      rw [stored_eq (congrArg Prod.fst offered)] at cached verdict_eq
      rw [offered] at verdict_eq
      have kept := exists_verifying_keptKeys earlier single verified few
      have some_matching : matchingKeys (keptKeys backend parked keys earlier cache)
          parked.parsed.alg ≠ [] := by
        obtain ⟨k, member, verifies⟩ := kept
        exact matchingKeys_ne_nil_iff.mpr
          ⟨k, member, ((Bool.and_eq_true _ _).mp verifies).1⟩
      exact notNegative_of_stored printable certified cached some_matching
        (fun _ => kept) verdict_eq noMiss
  · have unverified : ∀ k ∈ usableKeys backend keys parked.parsed.kid,
        verifiesToken backend parked k = false := by
      intro k member
      exact Bool.eq_false_iff.mpr fun verifies => verified ⟨k, member, verifies⟩
    have offered := offeredKeys_of_unmoved (.inr unverified)
    rw [stored_eq (congrArg Prod.fst offered)] at cached verdict_eq
    rw [offered] at verdict_eq
    by_cases noMatch : matchingKeys (keptKeys backend parked keys earlier cache)
        parked.parsed.alg = []
    · refine iff_of_false (fun spared => ?_) ?_
      · have verdict := spared.notNegative
        rw [verdict_eq, Option.getD_none, verifyAgainstCachedKid, if_pos noMatch] at verdict
        cases verdict
      · rintro (isVerified | ⟨k, member, matching⟩)
        · exact verified isVerified
        · exact matchingKeys_ne_nil_iff.mpr ⟨k, member, matching⟩ noMatch
    · refine iff_of_true ?_ (.inr (matchingKeys_ne_nil_iff.mp noMatch))
      exact notNegative_of_stored printable certified cached noMatch
        (fun served => absurd (serves_verifies_iff.mp served) verified) verdict_eq noMiss

/-- A cold call gives no negative verdict exactly if its kid is kept. -/
theorem finishCold_notNegative_iff
    (consistent : cache.Consistent)
    (certified : HoldsCertified backend
      (finishCold backend parked response order cache).cache)
    (few : ∀ hit, cache.findHit parked.call.jwksUri parked.parsed.kid = some hit →
      hit.keys.length ≤ kMaxKeysPerKid)
    (printable : '\n' ∉ parked.parsed.kid.toList)
    (read : readResponse backend response = .keys keys)
    (usable : usableKeys backend keys parked.parsed.kid ≠ []) :
    NotNegative backend parked keys cache
        (finishCold backend parked response order cache) ↔
      KeepsKid backend parked keys (order.visit (groupSigningKeysByKid keys)) cache := by
  obtain ⟨later, visit_eq, apart⟩ := visit_split_apart order printable read usable
  have distinct := order.nodup_visit (groupSigningKeysByKid keys)
  have earlierDistinct := distinct.sublist
    ((List.takeWhile_sublist fun group => group.1 ≠ parked.parsed.kid).map Sigma.fst)
  have still_iff := stillCached_iff backend parked consistent earlierDistinct
    fun group member => (apart group (List.mem_append_left _ member)).1
  have target := findHit_ingestedCache backend consistent usable visit_eq
    fun group member => (apart group member).2
  obtain ⟨sameNode, noMiss⟩ := misses_ingestOperations backend parked
    (cacheKey parked.call.jwksUri parked.parsed.kid)
    (order.visit (groupSigningKeysByKid keys))
    (recordJwksFetchSuccess_consistent parked.call.jwksUri parked.call.opts.nowS consistent)
  rw [JwksCache.misses_recordJwksFetchSuccess] at noMiss
  rw [keepsKid_iff consistent usable distinct visit_eq]
  rw [finishCold_of_usable consistent read usable visit_eq apart] at certified ⊢
  dsimp only at certified ⊢
  split at target
  · next room =>
      rw [if_pos room] at certified ⊢
      rw [and_iff_right room]
      exact notNegative_of_room_iff certified few printable
        (fun unmoved => storedKeys_eq_keptKeys unmoved still_iff)
        (Option.map_eq_some_iff.mp target) rfl noMiss
  · next noRoom =>
      rw [if_neg noRoom]
      refine iff_of_false ?_ fun keeps => noRoom keeps.1
      apply not_notNegative_onFetchMiss consistent
      · exact JwksCache.applyAll_consistent _ (recordJwksFetchSuccess_consistent _ _ consistent)
      · simpa [ingestedCache] using sameNode

namespace System

/-- A cold call whose document has a key for its token records no miss and gives no
negative verdict, exactly if the kid is kept. -/
theorem notNegative_iff_keepsKid
    (backend : Backend)
    (minRefreshS : Int)
    (maxEntries : Nat)
    (labels : List Label)
    (request : Nat)
    (parked : Parked)
    (document : Response)
    (order : IterationOrder String (List Jwk))
    (k : Jwk)
    (waiting : (run backend (initial minRefreshS maxEntries) labels).inFlight.lookup request =
      some parked)
    (isCold : parked.route = .cold)
    (isOk : document.statusCode = 200)
    (serves : Serves backend parked (parseJwksJson backend document.body) k) :
    NotNegative backend parked (parseJwksJson backend document.body)
        (run backend (initial minRefreshS maxEntries) labels).cache
        (finishValidation backend parked (some document) order
          (run backend (initial minRefreshS maxEntries) labels).cache) ↔
      KeepsKid backend parked (parseJwksJson backend document.body)
        (order.visit (groupSigningKeysByKid (parseJwksJson backend document.body)))
        (run backend (initial minRefreshS maxEntries) labels).cache := by
  have well := run_wellFormed backend labels (initial_wellFormed minRefreshS maxEntries)
  have certified := step_holdsCertified well (.resume request (some document) order)
    (run_holdsCertified backend minRefreshS maxEntries labels)
  have read := readResponse_eq_keys isOk (List.ne_nil_of_mem serves.listed)
  simp only [step, waiting] at certified
  rw [finishValidation, isCold] at certified ⊢
  have stocked := run_allStocked backend minRefreshS maxEntries labels
  exact finishCold_notNegative_iff (run_consistent backend minRefreshS maxEntries labels)
    certified (fun hit found => (stocked _ hit found).length_le)
    (well request parked waiting).2.admitted.printable read
    (usableKeys_ne_nil_of_serves serves)

/-- The call for a token of kid `b` that waits for its document. -/
def sampleParked : Parked where
  call := sampleCall "b-old" 1000
  parsed := { alg := "EdDSA", kid := "b" }
  route := .cold

/-- A document that lists kids `a` and `b`. -/
def samplePublished : Response := { statusCode := 200, body := "before" }

/-- With room for one kid, the one that is visited first is gone when the other is
ingested. -/
theorem refuses_usableKey :
    (run sampleBackend (initial 300 1) [.begin (sampleCall "b-old" 1000)]).inFlight.lookup 0 =
        some sampleParked ∧
      Serves sampleBackend sampleParked (parseJwksJson sampleBackend "before")
        { kid := "b", kty := "OKP", crv := "Ed25519", x := "AQ" } ∧
      ¬NotNegative sampleBackend sampleParked (parseJwksJson sampleBackend "before")
        (run sampleBackend (initial 300 1) [.begin (sampleCall "b-old" 1000)]).cache
        (finishValidation sampleBackend sampleParked (some samplePublished) .stored
          (run sampleBackend (initial 300 1) [.begin (sampleCall "b-old" 1000)]).cache) := by
  refine ⟨rfl, ⟨by decide, rfl, by decide, by decide⟩, fun spared => ?_⟩
  have verdict := spared.notNegative
  revert verdict
  decide

/-- With room for both, neither is refused. -/
theorem notNegative_sample :
    NotNegative sampleBackend sampleParked (parseJwksJson sampleBackend "before")
      (run sampleBackend (initial 300 2) [.begin (sampleCall "b-old" 1000)]).cache
      (finishValidation sampleBackend sampleParked (some samplePublished) .stored
        (run sampleBackend (initial 300 2) [.begin (sampleCall "b-old" 1000)]).cache) :=
  (notNegative_iff_keepsKid sampleBackend 300 2 [.begin (sampleCall "b-old" 1000)] 0
    sampleParked samplePublished .stored
    { kid := "b", kty := "OKP", crv := "Ed25519", x := "AQ" } rfl rfl rfl
    ⟨by decide, rfl, by decide, by decide⟩).mpr (by decide)

end System
end Validator
end QuackOauth
