import Mathlib.Data.List.Perm.Subperm
import QuackOauth.Validator.LastGood
import QuackOauth.Validator.Operations

/-!
# A stable identity provider

An issuer answers every request with one and the same document, or not at all.
Whoever presents whatever tokens at whatever times, what is cached of a kid is what
the document lists for it: each operation that a call can bring about writes exactly
those keys, and none counts the kid as absent.
-/

namespace QuackOauth
namespace Validator

open Lib Jwks Jwt

/-! ## What is cached of one document -/

/-- An entry holds the usable keys that a document lists for its kid. -/
structure ExactEntry
    (backend : Backend)
    (keys : List Jwk)
    (jwksUri key : String)
    (hit : Entry)
    (kid : String) : Prop where
  key_eq : key = cacheKey jwksUri kid
  usable : usableKeys backend keys kid ≠ []
  keys_perm : hit.keys.Perm (usableKeys backend keys kid)
  present : hit.consecutiveAbsentCount = 0

/-- Every entry does so. -/
def Exact
    (backend : Backend)
    (keys : List Jwk)
    (jwksUri : String)
    (cache : JwksCache) : Prop :=
  ∀ key hit, cache.hits.lookup key = some hit →
    ∃ kid, ExactEntry backend keys jwksUri key hit kid

/-- A document whose kids, and whose keys per kid, are within the limits. -/
structure WithinLimits
    (backend : Backend)
    (keys : List Jwk)
    (limit : Nat) : Prop where
  kids_le : UnorderedMap.size (groupSigningKeysByKid keys) ≤ limit
  keys_le : ∀ kid, (usableKeys backend keys kid).length ≤ kMaxKeysPerKid
  printable : ∀ k ∈ keys, '\n' ∉ k.kid.toList
  kid_ne : ∀ k ∈ keys, k.kid ≠ ""

/-- An operation that speaks for a document: what it stores is listed, and what it
misses is not. -/
inductive Speaks
    (backend : Backend)
    (keys : List Jwk)
    (jwksUri : String) : Operation → Prop
  | quiet (operation : Operation) :
      (∀ (cache : JwksCache) key,
        cache.entryAfter key (cache.hits.lookup key) operation = cache.hits.lookup key) →
      (∀ cache : JwksCache, cache.droppedHit operation = none) →
      Speaks backend keys jwksUri operation
  | absent (kid : String) (reservationId : Nat) (nowS : Int) :
      '\n' ∉ kid.toList → listedKeys keys kid = [] →
      Speaks backend keys jwksUri (.recordKidAbsent kid reservationId nowS jwksUri)
  | commit (kid : String) (reservationId : Nat) (candidates : List Jwk) (nowS : Int) :
      candidates.Perm (usableKeys backend keys kid) → candidates ≠ [] →
      Speaks backend keys jwksUri
        (.commitRefresh kid reservationId candidates nowS jwksUri)
  | reconcile (excludeKid : String) :
      Speaks backend keys jwksUri (.reconcileAbsentKids
        ((groupSigningKeysByKid keys).keys.filter fun kid => kid ≠ "") jwksUri excludeKid)
  | ingest (kid : String) (ingested : List Jwk) (nowS : Int) :
      ingested.Perm (usableKeys backend keys kid) →
      Speaks backend keys jwksUri (.onPassiveFetchSuccess kid ingested nowS jwksUri)

variable {backend : Backend} {keys : List Jwk} {jwksUri : String} {cache : JwksCache}
variable {limit : Nat} {key kid : String} {hit : Entry} {operation : Operation}

theorem printable_of_usable
    (within : WithinLimits backend keys limit)
    (usable : usableKeys backend keys kid ≠ []) :
    '\n' ∉ kid.toList := by
  obtain ⟨k, member⟩ := List.exists_mem_of_ne_nil _ (listedKeys_ne_nil_of_usable usable)
  obtain ⟨parsed, -, rfl⟩ := mem_listedKeys.mp member
  exact within.printable k parsed

/-- A kid for which there are candidates has usable keys. -/
theorem usable_of_arranged
    {candidates : List Jwk}
    (arranged : candidates.Perm (usableKeys backend keys kid))
    (nonempty : candidates ≠ []) :
    usableKeys backend keys kid ≠ [] := by
  intro empty
  rw [empty] at arranged
  exact nonempty arranged.eq_nil

theorem length_le_of_arranged
    {candidates : List Jwk}
    (within : WithinLimits backend keys limit)
    (arranged : candidates.Perm (usableKeys backend keys kid)) :
    candidates.length ≤ kMaxKeysPerKid := by
  rw [arranged.length_eq]
  exact within.keys_le kid

theorem trimToCap_eq_self {candidates : List Jwk} (few : candidates.length ≤ kMaxKeysPerKid) :
    JwksCache.trimToCap candidates = candidates := by
  unfold JwksCache.trimToCap
  exact if_neg (Nat.not_lt_of_le few)

/-- Adding the keys of the document to the keys of the document changes nothing. -/
theorem dropOldest_unionKeys_eq_self
    {existing ingested : List Jwk}
    (within : WithinLimits backend keys limit)
    (exact_ : existing.Perm (usableKeys backend keys kid))
    (listed : ingested.Perm (usableKeys backend keys kid)) :
    JwksCache.dropOldest (JwksCache.unionKeys existing ingested) = existing := by
  rw [unionKeys_eq_self]
  · rw [JwksCache.dropOldest, Nat.sub_eq_zero_of_le (length_le_of_arranged within exact_),
      List.drop_zero]
  · intro k member
    have usable := (mem_of_mem_screenUsableKeys (listed.subset member)).2
    exact holdsMaterial_iff.mpr
      ⟨k, exact_.symm.subset (listed.subset member), sameKeyMaterial_self usable⟩

/-- A kid with usable keys is present in its document. -/
theorem mem_presentKids
    (within : WithinLimits backend keys limit)
    (usable : usableKeys backend keys kid ≠ []) :
    kid ∈ (groupSigningKeysByKid keys).keys.filter fun kid => kid ≠ "" := by
  have listed := listedKeys_ne_nil_of_usable usable
  have grouped := lookup_groupSigningKeysByKid_eq_some.mpr ⟨rfl, listed⟩
  obtain ⟨k, member⟩ := List.exists_mem_of_ne_nil _ listed
  obtain ⟨parsed, -, rfl⟩ := mem_listedKeys.mp member
  rw [List.mem_filter, ← AList.mem_keys, ← AList.lookup_isSome, grouped]
  exact ⟨rfl, decide_eq_true (within.kid_ne k parsed)⟩

/-- Kids with usable keys are told apart. -/
theorem kid_eq_of_cacheKey
    {other : String}
    (within : WithinLimits backend keys limit)
    (usable : usableKeys backend keys kid ≠ [])
    (printable : '\n' ∉ other.toList)
    (same : cacheKey jwksUri kid = cacheKey jwksUri other) :
    kid = other :=
  (cacheKey_inj (printable_of_usable within usable) printable same).2

/-- A cached kid stays cached with its keys. -/
theorem entryAfter_exact
    (within : WithinLimits backend keys limit)
    (speaks : Speaks backend keys jwksUri operation)
    (stored : cache.hits.lookup key = some hit)
    (exact_ : ExactEntry backend keys jwksUri key hit kid) :
    ∃ after, cache.entryAfter key (cache.hits.lookup key) operation = some after ∧
      ExactEntry backend keys jwksUri key after kid := by
  obtain ⟨key_eq, usable, keys_perm, present⟩ := exact_
  cases speaks with
  | quiet _ quiet _ =>
      exact ⟨hit, (quiet cache key).trans stored, key_eq, usable, keys_perm, present⟩
  | absent other reservationId nowS printable unlisted =>
      have isOther : key ≠ cacheKey jwksUri other := by
        intro same
        rw [key_eq] at same
        rw [kid_eq_of_cacheKey within usable printable same] at usable
        exact listedKeys_ne_nil_of_usable usable unlisted
      rw [JwksCache.entryAfter, if_neg isOther, stored]
      exact ⟨hit, rfl, key_eq, usable, keys_perm, present⟩
  | commit other reservationId candidates nowS arranged nonempty =>
      rw [JwksCache.entryAfter, stored]
      split
      · next isKey =>
          have otherUsable := usable_of_arranged arranged nonempty
          have same := kid_eq_of_cacheKey within usable
            (printable_of_usable within otherUsable) (key_eq.symm.trans isKey)
          subst same
          rw [Option.map_some]
          split
          · refine ⟨_, rfl, key_eq, usable, ?_, rfl⟩
            rw [trimToCap_eq_self (length_le_of_arranged within arranged)]
            exact arranged
          · exact ⟨hit, rfl, key_eq, usable, keys_perm, present⟩
      · exact ⟨hit, rfl, key_eq, usable, keys_perm, present⟩
  | reconcile excludeKid =>
      have readBack := JwksCache.kidOfCacheKey_cacheKey jwksUri
        (printable_of_usable within usable)
      have isPresent := mem_presentKids within usable
      rw [JwksCache.entryAfter, stored, JwksCache.kidPresence, key_eq, readBack]
      dsimp only
      split
      · exact ⟨hit, by simp [JwksCache.countAbsence, JwksCache.evictedForAbsence], rfl,
          usable, keys_perm, present⟩
      · rw [decide_eq_true isPresent]
        exact ⟨{ hit with consecutiveAbsentCount := 0 },
          by simp [JwksCache.countAbsence, JwksCache.evictedForAbsence], rfl, usable,
          keys_perm, rfl⟩
  | ingest other ingested nowS arranged =>
      rw [JwksCache.entryAfter, stored]
      split
      · next isKey =>
          obtain ⟨isKey, nonempty⟩ := isKey
          have otherUsable := usable_of_arranged arranged nonempty
          have same := kid_eq_of_cacheKey within usable
            (printable_of_usable within otherUsable) (key_eq.symm.trans isKey)
          subst same
          refine ⟨_, rfl, key_eq, usable, ?_, rfl⟩
          simp only [JwksCache.extendedEntry]
          rw [dropOldest_unionKeys_eq_self within keys_perm arranged]
          exact keys_perm
      · exact ⟨hit, rfl, key_eq, usable, keys_perm, present⟩

/-- A kid that gets cached gets its keys. -/
theorem entryAfter_exact_of_new
    (within : WithinLimits backend keys limit)
    (speaks : Speaks backend keys jwksUri operation)
    (absent : cache.hits.lookup key = none)
    (present : cache.entryAfter key (cache.hits.lookup key) operation = some hit) :
    ∃ kid, ExactEntry backend keys jwksUri key hit kid := by
  cases speaks with
  | quiet _ quiet _ =>
      rw [quiet, absent] at present
      cases present
  | absent =>
      rw [JwksCache.entryAfter, absent] at present
      split at present <;> cases present
  | commit =>
      rw [JwksCache.entryAfter, absent] at present
      split at present <;> cases present
  | reconcile =>
      rw [JwksCache.entryAfter, absent] at present
      cases present
  | ingest kid ingested nowS arranged =>
      rw [JwksCache.entryAfter, absent] at present
      split at present
      · next isKey =>
          cases present
          refine ⟨kid, isKey.1, usable_of_arranged arranged isKey.2, ?_, rfl⟩
          simp only [JwksCache.extendedEntry, JwksCache.newEntry]
          rw [trimToCap_eq_self (length_le_of_arranged within arranged)]
          exact arranged
      · cases present

/-- A document within the limits is never short of room. -/
theorem droppedHit_of_speaks
    (within : WithinLimits backend keys cache.maxEntries.1)
    (speaks : Speaks backend keys jwksUri operation)
    (exact_ : Exact backend keys jwksUri cache) :
    cache.droppedHit operation = none := by
  cases speaks with
  | quiet _ _ keeps => exact keeps cache
  | absent => rfl
  | commit => rfl
  | reconcile => rfl
  | ingest kid ingested nowS arranged =>
      apply JwksCache.droppedHit_of_not_overflows
      rintro ⟨nonempty, absent, full⟩
      have usable := usable_of_arranged arranged nonempty
      -- The cached kids and the new one are kids of the document.
      have nodup : (cacheKey jwksUri kid :: cache.hits.keys).Nodup := by
        refine List.nodup_cons.mpr ⟨?_, cache.hits.keys_nodup⟩
        rw [← AList.mem_keys, ← AList.lookup_isSome]
        simpa [JwksCache.findHit] using absent
      have listed : cacheKey jwksUri kid :: cache.hits.keys ⊆
          (groupSigningKeysByKid keys).keys.map (cacheKey jwksUri) := by
        refine List.cons_subset.mpr ⟨?_, fun key member => ?_⟩
        · exact List.mem_map_of_mem (List.mem_of_mem_filter (mem_presentKids within usable))
        · rw [← AList.mem_keys, ← AList.lookup_isSome, Option.isSome_iff_exists] at member
          obtain ⟨hit, stored⟩ := member
          obtain ⟨other, isExact⟩ := exact_ key hit stored
          rw [isExact.key_eq]
          exact List.mem_map_of_mem
            (List.mem_of_mem_filter (mem_presentKids within isExact.usable))
      have counted := (List.subperm_of_subset nodup listed).length_le
      have kids_le := within.kids_le
      rw [UnorderedMap.size_eq_length_keys] at full kids_le
      rw [List.length_cons, List.length_map] at counted
      omega

/-- What one operation that speaks for the document preserves. -/
theorem apply_exact
    (consistent : cache.Consistent)
    (within : WithinLimits backend keys cache.maxEntries.1)
    (speaks : Speaks backend keys jwksUri operation)
    (exact_ : Exact backend keys jwksUri cache) :
    Exact backend keys jwksUri (cache.apply operation) ∧
      ∀ key, (cache.hits.lookup key).isSome →
        ((cache.apply operation).hits.lookup key).isSome := by
  have after_eq : ∀ key, (cache.apply operation).hits.lookup key =
      cache.entryAfter key (cache.hits.lookup key) operation := by
    intro key
    rw [(JwksCache.apply_applied consistent operation).lookup_hits,
      droppedHit_of_speaks within speaks exact_, if_neg (Option.some_ne_none _).symm]
  constructor
  · intro key hit present
    rw [after_eq] at present
    cases stored : cache.hits.lookup key with
    | none => exact entryAfter_exact_of_new within speaks stored present
    | some previous =>
        obtain ⟨kid, isExact⟩ := exact_ key previous stored
        obtain ⟨after, left, isExact⟩ := entryAfter_exact within speaks stored isExact
        cases left.symm.trans present
        exact ⟨kid, isExact⟩
  · intro key cached
    obtain ⟨hit, stored⟩ := Option.isSome_iff_exists.mp cached
    obtain ⟨kid, isExact⟩ := exact_ key hit stored
    obtain ⟨after, left, -⟩ := entryAfter_exact within speaks stored isExact
    rw [after_eq, left]
    rfl

/-- What a list of such operations preserves. -/
theorem applyAll_exact
    {operations : List Operation}
    (consistent : cache.Consistent)
    (within : WithinLimits backend keys cache.maxEntries.1)
    (speak : ∀ operation ∈ operations, Speaks backend keys jwksUri operation)
    (exact_ : Exact backend keys jwksUri cache) :
    Exact backend keys jwksUri (cache.applyAll operations) ∧
      ∀ key, (cache.hits.lookup key).isSome →
        ((cache.applyAll operations).hits.lookup key).isSome := by
  induction operations generalizing cache with
  | nil => exact ⟨exact_, fun _ cached => cached⟩
  | cons operation operations inductionHypothesis =>
      have applied := JwksCache.apply_applied consistent operation
      obtain ⟨exactAfter, stays⟩ :=
        apply_exact consistent within (speak operation List.mem_cons_self) exact_
      rw [← applied.maxEntries_eq] at within
      obtain ⟨exactRest, staysRest⟩ := inductionHypothesis applied.consistent within
        (fun other member => speak other (List.mem_cons_of_mem _ member)) exactAfter
      exact ⟨exactRest, fun key cached => staysRest key (stays key cached)⟩

/-! ## Validations against the issuer -/

/-- The issuer answers with one document, or with no key. -/
def Answers (backend : Backend) (body : String) (response : Option Response) : Prop :=
  Unread backend response ∨ response = some { statusCode := 200, body }

theorem keys_eq_of_answers
    {body : String}
    {response : Option Response}
    (answers : Answers backend body response)
    (read : readResponse backend response = .keys keys) :
    keys = parseJwksJson backend body := by
  rcases answers with unread | rfl
  · rcases readResponse_of_unread unread with failed | noKeys
    · cases failed.symm.trans read
    · cases noKeys.symm.trans read
  · obtain ⟨document, answered, -, rfl⟩ := readResponse_keys read
    cases answered
    rfl

theorem listed_of_published
    {body : String}
    {response : Option Response}
    {k : Jwk}
    (answers : Answers backend body response)
    (published : Published backend response kid k) :
    k ∈ parseJwksJson backend body := by
  obtain ⟨document, rfl, isOk, member⟩ := published.document
  rcases answers with unread | answered
  · rcases unread with failed | empty
    · exact absurd isOk failed
    · rw [empty] at member
      cases member
  · cases answered
    exact member

/-- What a call does from such a response on speaks for the document. -/
theorem speaks_of_finishing
    {body : String}
    {parked : Parked}
    {response : Option Response}
    (answers : Answers backend body response)
    (printable : '\n' ∉ parked.parsed.kid.toList)
    (finishing : Finishing backend parked response operation) :
    Speaks backend (parseJwksJson backend body) parked.call.jwksUri operation := by
  cases finishing with
  | reason => exact .quiet _ (fun _ _ => rfl) fun _ => rfl
  | missed => exact .quiet _ (fun _ _ => rfl) fun _ => rfl
  | read => exact .quiet _ (fun _ _ => rfl) fun _ => rfl
  | absent keys reservationId cachedResult read route unlisted =>
      rw [keys_eq_of_answers answers read] at unlisted
      exact .absent _ _ _ printable unlisted
  | commit keys candidates reservationId cachedResult read route arranged nonempty =>
      rw [keys_eq_of_answers answers read] at arranged
      exact .commit _ _ _ _ arranged nonempty
  | reconcile keys read =>
      rw [keys_eq_of_answers answers read]
      exact .reconcile _
  | ingest keys kid ingested read listed arranged =>
      rw [keys_eq_of_answers answers read] at arranged
      exact .ingest _ _ _ arranged

theorem withinLimits_of_document
    {body : String}
    (kids_le : UnorderedMap.size (groupSigningKeysByKid (parseJwksJson backend body)) ≤
      limit)
    (keys_le : ∀ kid,
      (usableKeys backend (parseJwksJson backend body) kid).length ≤ kMaxKeysPerKid) :
    WithinLimits backend (parseJwksJson backend body) limit where
  kids_le := kids_le
  keys_le := keys_le
  printable := fun _ member =>
    newline_notMem_of_kidAcceptable (kidAcceptable_of_mem_parseJwksJson member)
  kid_ne := fun _ member => (kid_of_mem_parseJwksJson member).1

/-- Exactness concerns the last good keys only. -/
theorem Exact.of_sameLastGood
    {after : JwksCache}
    (exact_ : Exact backend keys jwksUri cache)
    (same : SameLastGood cache after) :
    Exact backend keys jwksUri after ∧
      ∀ key, (cache.hits.lookup key).isSome → (after.hits.lookup key).isSome := by
  constructor
  · intro key hit present
    have sameKey := same key
    rw [present, Option.map_some] at sameKey
    obtain ⟨previous, stored, good⟩ := Option.map_eq_some_iff.mp sameKey.symm
    obtain ⟨kid, key_eq, usable, keys_perm, isPresent⟩ := exact_ key previous stored
    simp only [lastGood, Prod.mk.injEq] at good
    refine ⟨kid, key_eq, usable, ?_, ?_⟩
    · rwa [← good.1]
    · rwa [← good.2.2]
  · intro key cached
    have sameKey := congrArg Option.isSome (same key)
    rw [Option.isSome_map, Option.isSome_map, cached] at sameKey
    exact sameKey

/-! ## The verdict under a listed key -/

/-- The signature of a token matches a key that a document lists for its kid. -/
structure SignedBy
    (backend : Backend)
    (keys : List Jwk)
    (call : Call)
    (parsed : JwtParsed)
    (k : Jwk) : Prop where
  parses : parseJwt backend call.token = some parsed
  listed : k ∈ keys
  kid_eq : k.kid = parsed.kid
  matching : jwkMatchesTokenHeader k parsed.alg = true
  signature : signatureMatchesCandidate
    (verifyJwt backend call.token k call.opts) = true

variable {call : Call} {parsed : JwtParsed} {k : Jwk}

/-- A signature that matches has passed the gates before the key is read. -/
theorem gates_of_signature
    {token : String}
    {opts : VerifyOptions}
    (parses : parseJwt backend token = some parsed)
    (signature : signatureMatchesCandidate (verifyJwt backend token k opts) = true) :
    isForbiddenAlgorithm parsed.alg = false ∧
      isAlgorithmAllowed parsed.alg opts.allowedAlgorithms = true ∧
      isUsableSigningKey backend k = true := by
  obtain ⟨-, -, decoded, decodes, algRead, -⟩ := parseJwt_some parses
  unfold verifyJwt at signature
  simp only [decodes, algRead, Option.getD_some] at signature
  split at signature
  · cases signature
  · split at signature
    · cases signature
    · next passes =>
        simp only [Bool.or_eq_true, Bool.not_eq_true', not_or, Bool.not_eq_true,
          Bool.not_eq_false] at passes
        refine ⟨passes.1, passes.2, ?_⟩
        split at signature
        · next verdict refuses =>
            have refusal := jwkToPem_error refuses
            rcases refusal with rfl | rfl
            · cases signature
            · cases signature
        · next pem converts => exact isUsableSigningKey_of_jwkToPem converts

theorem SignedBy.admitted
    (signed : SignedBy backend keys call parsed k)
    (kid_ne : k.kid ≠ "") :
    HeaderAdmitted backend call parsed := by
  obtain ⟨notForbidden, allowed, -⟩ := gates_of_signature signed.parses signed.signature
  exact ⟨signed.parses, signed.kid_eq ▸ kid_ne, notForbidden, allowed⟩

/-- A signing key that matches is found again, by its material, in the exact entry. -/
theorem SignedBy.stored
    {hit : Entry}
    (signed : SignedBy backend keys call parsed k)
    (keys_perm : hit.keys.Perm (usableKeys backend keys parsed.kid)) :
    ∃ other ∈ hit.keys, SignedBy backend keys call parsed other := by
  obtain ⟨-, -, usable⟩ := gates_of_signature signed.parses signed.signature
  have signing : isSigningKey k = true := by
    have matching := signed.matching
    rw [jwkMatchesTokenHeader, Bool.and_eq_true] at matching
    exact matching.1
  have listed := mem_listedKeys.mpr ⟨signed.listed, signing, signed.kid_eq⟩
  obtain ⟨other, member, same⟩ :=
    holdsMaterial_iff.mp (holdsMaterial_screenUsableKeys listed usable)
  obtain ⟨inDocument, -, kid_eq⟩ :=
    mem_listedKeys.mp (mem_of_mem_screenUsableKeys member).1
  refine ⟨other, keys_perm.symm.subset member, signed.parses, inDocument, kid_eq, ?_, ?_⟩
  · rw [jwkMatchesTokenHeader_eq_of_sameKeyMaterial same]
    exact signed.matching
  · rw [verifyJwt_eq_of_sameKeyMaterial same]
    exact signed.signature

/-- All keys under which the signature of a token matches give one verdict. -/
def OneVerdict (backend : Backend) (keys : List Jwk) : Prop :=
  ∀ call parsed k other, SignedBy backend keys call parsed k →
    SignedBy backend keys call parsed other →
      verifyJwt backend call.token k call.opts =
        verifyJwt backend call.token other call.opts

/-- Where tokens have no other fault than a wrong signature, one that matches is
accepted. -/
theorem verifyJwt_ok_of_signature
    {backend : Backend}
    {token : String}
    {k : Jwk}
    {opts : VerifyOptions}
    (faultless : ∀ config, backend.verify config token = .ok ∨
      backend.verify config token = .signatureError)
    (signature : signatureMatchesCandidate (verifyJwt backend token k opts) = true) :
    verifyJwt backend token k opts = .ok := by
  unfold verifyJwt verifyWithVerifier at signature ⊢
  dsimp only at signature ⊢
  grind [signatureMatchesCandidate, jwkToPem_error]

/-- The keys of an exact entry decide as the key that matches. -/
theorem verifyWithCachedKeys_of_signed
    {hit : Entry}
    (oneVerdict : OneVerdict backend keys)
    (signed : SignedBy backend keys call parsed k)
    (keys_perm : hit.keys.Perm (usableKeys backend keys parsed.kid)) :
    matchingKeys hit.keys parsed.alg ≠ [] ∧
      verifyWithCachedKeys backend call.token (matchingKeys hit.keys parsed.alg) call.opts =
        verifyJwt backend call.token k call.opts := by
  obtain ⟨other, member, otherSigned⟩ := signed.stored keys_perm
  obtain ⟨nonempty, decider, inEntry, isMatch, signature, verdict⟩ :=
    verifyWithCachedKeys_matching_of_signature
      ⟨other, member, otherSigned.matching, otherSigned.signature⟩
  refine ⟨nonempty, ?_⟩
  rw [verdict]
  obtain ⟨inDocument, -, kid_eq⟩ :=
    mem_listedKeys.mp (mem_of_mem_screenUsableKeys (keys_perm.subset inEntry)).1
  exact oneVerdict call parsed decider k
    ⟨signed.parses, inDocument, kid_eq, isMatch, signature⟩ signed

/-- A token under a listed key of a cached kid gets that key's verdict at once. -/
theorem beginValidation_of_signed
    {limit : Nat}
    (within : WithinLimits backend keys limit)
    (exact_ : Exact backend keys call.jwksUri cache)
    (oneVerdict : OneVerdict backend keys)
    (signed : SignedBy backend keys call parsed k)
    (cached : (cache.findHit call.jwksUri parsed.kid).isSome) :
    ∃ outcome, beginValidation backend call cache = .finished outcome ∧
      outcome.verdict = verifyJwt backend call.token k call.opts := by
  obtain ⟨hit, found⟩ := Option.isSome_iff_exists.mp cached
  have admitted := signed.admitted (within.kid_ne k signed.listed)
  have keys_perm : hit.keys.Perm (usableKeys backend keys parsed.kid) := by
    obtain ⟨kid, isExact⟩ := exact_ _ hit found
    rw [kid_eq_of_cacheKey within isExact.usable admitted.printable isExact.key_eq.symm]
      at isExact
    exact isExact.keys_perm
  obtain ⟨nonempty, decides⟩ := verifyWithCachedKeys_of_signed oneVerdict signed keys_perm
  have noRefresh : callsForRefresh backend call parsed hit.keys = false := by
    have signature := signed.signature
    rw [callsForRefresh, decides]
    cases verdict : verifyJwt backend call.token k call.opts <;>
      simp_all [signatureMatchesCandidate, isCachedKeyUnusable]
  exact ⟨_, beginValidation_of_cached admitted found noRefresh, decides⟩

namespace System

/-- A step of a call for the issuer, or an answer of the issuer. -/
def OneIssuer (backend : Backend) (body jwksUri : String) : Label → Prop
  | .begin call => call.jwksUri = jwksUri
  | .resume _ response _ => Answers backend body response

/-- The cache is exact, and all calls that wait are for the issuer. -/
structure Stable
    (backend : Backend)
    (body jwksUri : String)
    (system : System) : Prop where
  wellFormed : WellFormed backend system
  consistent : system.cache.Consistent
  within : WithinLimits backend (parseJwksJson backend body) system.cache.maxEntries.1
  exact_ : Exact backend (parseJwksJson backend body) jwksUri system.cache
  issuer : ∀ request parked, system.inFlight.lookup request = some parked →
    parked.call.jwksUri = jwksUri

variable {body : String} {system : System} {label : Label}

/-- A step at the issuer keeps the cache exact and every cached kid cached. -/
theorem Stable.step
    (stable : Stable backend body jwksUri system)
    (oneIssuer : OneIssuer backend body jwksUri label) :
    Stable backend body jwksUri (step backend system label) ∧
      ∀ key, (system.cache.hits.lookup key).isSome →
        ((System.step backend system label).cache.hits.lookup key).isSome := by
  have exactAfter : Exact backend (parseJwksJson backend body) jwksUri
        (System.step backend system label).cache ∧
      ∀ key, (system.cache.hits.lookup key).isSome →
        ((System.step backend system label).cache.hits.lookup key).isSome := by
    cases label with
    | begin call =>
        have same := beginValidation_sameLastGood backend call system.cache
        have step_eq : (System.step backend system (.begin call)).cache =
            (beginValidation backend call system.cache).cache := by
          rw [System.step]
          cases beginValidation backend call system.cache <;> rfl
        rw [step_eq]
        exact stable.exact_.of_sameLastGood same
    | resume request response order =>
        cases waiting : system.inFlight.lookup request with
        | none =>
            simp only [System.step, waiting]
            exact ⟨stable.exact_, fun _ cached => cached⟩
        | some parked =>
            have printable := (stable.wellFormed request parked waiting).2.admitted.printable
            rw [step_cache, stepOperations, waiting]
            refine applyAll_exact stable.consistent stable.within
              (fun operation member => ?_) stable.exact_
            rw [← stable.issuer request parked waiting]
            exact speaks_of_finishing oneIssuer printable (mem_finishOperations member)
  refine ⟨⟨step_wellFormed label stable.wellFormed, ?_, ?_, exactAfter.1, ?_⟩, exactAfter.2⟩
  · rw [step_cache]
    exact JwksCache.applyAll_consistent _ stable.consistent
  · rw [step_cache, (JwksCache.applyAll_bounds _ stable.consistent).2]
    exact stable.within
  · intro request parked waiting
    rcases step_inFlight waiting with earlier | ⟨call, rfl, -, begun⟩
    · exact stable.issuer request parked earlier
    · rw [((beginValidation_spec backend call system.cache).2 _ _ begun).call_eq]
      exact oneIssuer

theorem Stable.run
    {labels : List Label}
    (stable : Stable backend body jwksUri system)
    (oneIssuer : ∀ label ∈ labels, OneIssuer backend body jwksUri label) :
    Stable backend body jwksUri (run backend system labels) ∧
      ∀ key, (system.cache.hits.lookup key).isSome →
        ((System.run backend system labels).cache.hits.lookup key).isSome := by
  induction labels generalizing system with
  | nil => exact ⟨stable, fun _ cached => cached⟩
  | cons label labels inductionHypothesis =>
      obtain ⟨stepped, stays⟩ := stable.step (oneIssuer label List.mem_cons_self)
      obtain ⟨ran, staysRest⟩ := inductionHypothesis stepped
        fun other member => oneIssuer other (List.mem_cons_of_mem _ member)
      exact ⟨ran, fun key cached => staysRest key (stays key cached)⟩

theorem initial_stable
    (minRefreshS : Int)
    {maxEntries : Nat}
    (jwksUri : String)
    (within : WithinLimits backend (parseJwksJson backend body) (entryLimit maxEntries).1) :
    Stable backend body jwksUri (initial minRefreshS maxEntries) where
  wellFormed := initial_wellFormed minRefreshS maxEntries
  consistent := JwksCache.create_consistent minRefreshS maxEntries
  within := within
  exact_ := fun key hit impossible => by cases impossible
  issuer := fun request parked impossible => by cases impossible

/-- A key that an exact cache holds for a kid is listed for it. -/
theorem listed_of_storedFor
    {limit : Nat}
    {body : String}
    {k : Jwk}
    {cache : JwksCache}
    (within : WithinLimits backend (parseJwksJson backend body) limit)
    (exact_ : Exact backend (parseJwksJson backend body) jwksUri cache)
    (printable : '\n' ∉ kid.toList)
    (stored : StoredFor cache jwksUri kid k) :
    k ∈ parseJwksJson backend body ∧ k.kid = kid := by
  obtain ⟨hit, found, member⟩ := stored
  obtain ⟨other, isExact⟩ := exact_ _ hit found
  have same := kid_eq_of_cacheKey within isExact.usable printable isExact.key_eq.symm
  have listed := (mem_of_mem_screenUsableKeys (isExact.keys_perm.subset member)).1
  obtain ⟨inDocument, -, kid_eq⟩ := mem_listedKeys.mp listed
  exact ⟨inDocument, kid_eq.trans same⟩

/-- The cache is exact right after the commit attempt of a refresh, too. -/
theorem Stable.cacheAfterCommit
    {parked : Parked}
    {response : Option Response}
    {reservationId : Nat}
    {cachedResult : VerifyResult}
    (stable : Stable backend body jwksUri system)
    (answers : Answers backend body response)
    (printable : '\n' ∉ parked.parsed.kid.toList)
    (issuer : parked.call.jwksUri = jwksUri)
    (route : parked.route = .refresh reservationId cachedResult) :
    Exact backend (parseJwksJson backend body) jwksUri
      (Validator.cacheAfterCommit backend parked reservationId response system.cache) := by
  unfold Validator.cacheAfterCommit
  split
  · next keys read =>
      have speak : ∀ operation ∈ .recordJwksFetchSuccess parked.call.opts.nowS
          parked.call.jwksUri :: commitOperations backend parked reservationId
            (groupSigningKeysByKid keys) (system.cache.recordJwksFetchSuccess
              parked.call.opts.nowS parked.call.jwksUri),
          Speaks backend (parseJwksJson backend body) parked.call.jwksUri operation := by
        intro operation member
        rcases List.mem_cons.mp member with rfl | commits
        · exact speaks_of_finishing answers printable (.read keys read)
        · exact speaks_of_finishing answers printable
            (commitOperations_finishing read route commits)
      rw [issuer] at speak
      rw [commitTargetKid_cache, issuer]
      exact (applyAll_exact stable.consistent stable.within speak stable.exact_).1
  · exact stable.exact_

/-- The call that a step answers, and its verdict. -/
def verdictOf (backend : Backend) (system : System) : Label → Option (Call × VerifyResult)
  | .begin call =>
      match beginValidation backend call system.cache with
      | .finished outcome => some (call, outcome.verdict)
      | .fetching _ _ => none
  | .resume request response order =>
      (system.inFlight.lookup request).map fun parked =>
        (parked.call,
          (finishValidation backend parked response order system.cache).verdict)

/-- What the issuer's document makes of a token that is accepted. -/
structure AcceptedUnder
    (backend : Backend)
    (keys : List Jwk)
    (call : Call)
    (kid alg : String)
    (k : Jwk) : Prop where
  header : TrustedHeader backend call kid alg
  key : VerifyingKey backend call alg k
  listed : k ∈ keys
  kid_eq : k.kid = kid

/-- A step accepts a token under a key of the document only. -/
theorem Stable.accepts
    {call : Call}
    (stable : Stable backend body jwksUri system)
    (oneIssuer : OneIssuer backend body jwksUri label)
    (accepted : verdictOf backend system label = some (call, .ok)) :
    ∃ kid alg k, AcceptedUnder backend (parseJwksJson backend body) call kid alg k := by
  have stepped := (stable.step oneIssuer).1
  cases label with
  | begin other =>
      have isIssuer : other.jwksUri = jwksUri := oneIssuer
      subst isIssuer
      cases begun : beginValidation backend other system.cache with
      | fetching parked cache =>
          simp only [verdictOf, begun] at accepted
          cases accepted
      | finished outcome =>
          simp only [verdictOf, begun, Option.some.injEq, Prod.mk.injEq] at accepted
          obtain ⟨rfl, isOk⟩ := accepted
          obtain ⟨parsed, admitted, k, stored, verified⟩ :=
            ((beginValidation_spec backend other system.cache).1 outcome begun).accepted isOk
          obtain ⟨listed, kid_eq⟩ :=
            listed_of_storedFor stable.within stable.exact_ admitted.printable stored
          exact ⟨_, _, k, admitted.trusted, verified.verifyingKey, listed, kid_eq⟩
  | resume request response order =>
      cases waiting : system.inFlight.lookup request with
      | none =>
          simp only [verdictOf, waiting] at accepted
          cases accepted
      | some parked =>
          obtain ⟨-, admitted, reserved⟩ := stable.wellFormed request parked waiting
          have issuer := stable.issuer request parked waiting
          simp only [verdictOf, waiting, Option.map_some, Option.some.injEq,
            Prod.mk.injEq] at accepted
          obtain ⟨rfl, isOk⟩ := accepted
          have exactAfter := stepped.exact_
          have withinAfter := stepped.within
          simp only [System.step, waiting] at exactAfter
          unfold finishValidation at isOk exactAfter
          cases route : parked.route with
          | refresh reservationId cachedResult =>
              simp only [route] at isOk exactAfter
              have exactBetween := stable.cacheAfterCommit oneIssuer admitted.printable
                issuer route
              subst issuer
              obtain ⟨-, -, rejected⟩ := reserved _ _ route
              obtain ⟨k, verified, stored⟩ := (finishRefresh_spec rejected).accepted isOk
              have origin : k ∈ parseJwksJson backend body ∧ k.kid = parked.parsed.kid := by
                rcases stored with between | after
                · exact listed_of_storedFor stable.within exactBetween admitted.printable
                    between
                · exact listed_of_storedFor stable.within exactAfter admitted.printable after
              exact ⟨_, _, k, admitted.trusted, verified.verifyingKey, origin.1, origin.2⟩
          | cold =>
              simp only [route] at isOk exactAfter
              subst issuer
              obtain ⟨k, verified, stored⟩ := (finishCold_spec route).accepted isOk
              have origin : k ∈ parseJwksJson backend body ∧ k.kid = parked.parsed.kid := by
                rcases stored with ⟨-, published⟩ | after
                · refine ⟨?_, published.kid_eq⟩
                  exact listed_of_published oneIssuer published
                · exact listed_of_storedFor stable.within exactAfter admitted.printable after
              exact ⟨_, _, k, admitted.trusted, verified.verifyingKey, origin.1, origin.2⟩

/-- What tokens can rely on at a stable issuer. -/
structure Undisturbed
    (backend : Backend)
    (body jwksUri : String)
    (system : System) : Prop where
  /-- Of a cached kid, the keys that the document lists are cached. -/
  entries : Exact backend (parseJwksJson backend body) jwksUri system.cache
  /-- Once a kid is cached, a token under one of its keys gets that key's verdict, at
  any later time and without a request. -/
  verdicts : ∀ labels call parsed k,
    (∀ label ∈ labels, OneIssuer backend body jwksUri label) →
    call.jwksUri = jwksUri →
    SignedBy backend (parseJwksJson backend body) call parsed k →
    (system.cache.findHit jwksUri parsed.kid).isSome →
      ∃ outcome,
        beginValidation backend call (run backend system labels).cache =
          .finished outcome ∧
        outcome.verdict = verifyJwt backend call.token k call.opts
  /-- No token is accepted under another key. -/
  accepts : ∀ label call, OneIssuer backend body jwksUri label →
    verdictOf backend system label = some (call, .ok) →
      ∃ kid alg k, AcceptedUnder backend (parseJwksJson backend body) call kid alg k

theorem Stable.undisturbed
    (stable : Stable backend body jwksUri system)
    (oneVerdict : OneVerdict backend (parseJwksJson backend body)) :
    Undisturbed backend body jwksUri system where
  entries := stable.exact_
  verdicts := fun labels call parsed k oneIssuer issuer signed cached => by
    obtain ⟨ran, stays⟩ := stable.run oneIssuer
    subst issuer
    exact beginValidation_of_signed ran.within ran.exact_ oneVerdict signed
      (stays _ cached)
  accepts := fun _ _ oneIssuer accepted => stable.accepts oneIssuer accepted

/-- Tokens cannot disturb an issuer that answers with one document, or not at all. -/
theorem stable_provider
    (backend : Backend)
    (minRefreshS : Int)
    (maxEntries : Nat)
    (body jwksUri : String)
    (kids_le : UnorderedMap.size (groupSigningKeysByKid (parseJwksJson backend body)) ≤
      (entryLimit maxEntries).1)
    (keys_le : ∀ kid,
      (usableKeys backend (parseJwksJson backend body) kid).length ≤ kMaxKeysPerKid)
    (oneVerdict : OneVerdict backend (parseJwksJson backend body))
    (labels : List Label)
    (oneIssuer : ∀ label ∈ labels, OneIssuer backend body jwksUri label) :
    Undisturbed backend body jwksUri
      (run backend (initial minRefreshS maxEntries) labels) := by
  have within := withinLimits_of_document kids_le keys_le
  have stable := (initial_stable minRefreshS jwksUri within).run oneIssuer
  exact stable.1.undisturbed oneVerdict

/-- At the sample issuer all such keys agree. -/
theorem sampleBackend_oneVerdict (keys : List Jwk) : OneVerdict sampleBackend keys := by
  have faultless : ∀ (token : String) config, sampleBackend.verify config token = .ok ∨
      sampleBackend.verify config token = .signatureError := by
    intro token config
    simp only [sampleBackend]
    cases sampleTokens.lookup token with
    | none => exact .inr rfl
    | some signed =>
        dsimp only
        split
        · exact .inl rfl
        · exact .inr rfl
  intro call parsed k other signed otherSigned
  rw [verifyJwt_ok_of_signature (faultless _) signed.signature,
    verifyJwt_ok_of_signature (faultless _) otherSigned.signature]

theorem stable_provider_sample :
    Undisturbed sampleBackend "both" sampleUri
      (run sampleBackend (initial 300 1000)
        [.begin (sampleCall "a-old" 1000),
          .resume 0 (sampleResponse "both") .stored,
          .begin (sampleCall "a-new" 1001)]) := by
  have keys_eq : parseJwksJson sampleBackend "both" =
      [sampleOldKey, sampleNewKey, { sampleOldKey with kid := "b" }] := by decide
  refine stable_provider sampleBackend 300 1000 "both" sampleUri (by decide) ?_
    (sampleBackend_oneVerdict _) _ ?_
  · intro kid
    rw [keys_eq]
    by_cases isA : kid = "a"
    · subst isA
      decide
    · by_cases isB : kid = "b"
      · subst isB
        decide
      · simp [usableKeys, listedKeys, sampleOldKey, sampleNewKey, isSigningKey,
          Ne.symm isA, Ne.symm isB, screenUsableKeys]
  · intro label member
    simp only [List.mem_cons, List.not_mem_nil, or_false] at member
    rcases member with rfl | rfl | rfl
    · rfl
    · exact .inr rfl
    · rfl

end System
end Validator
end QuackOauth
