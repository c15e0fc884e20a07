import QuackOauth.Validator.Contents
import QuackOauth.Validator.Operations

/-!
# What a cold call ingests

A cold call ingests the keys of every kid of its document and reads its verdict back from
the cache.  The module follows the recency list through the visited kids, and tells what
is left of the entry of the token's own kid, what becomes of the misses, and with which
verdict the call ends.
-/

namespace QuackOauth
namespace Validator

open Lib Jwks Jwt

/-! ## Recency -/

/-- The keys of the cache by recency, after the groups of a document are ingested. -/
def recencyAfter
    (backend : Backend)
    (jwksUri : String)
    (limit : Nat)
    (groups : List ((_ : String) × List Jwk))
    (recent : List String) : List String :=
  groups.foldl
    (fun recent group =>
      if screenUsableKeys backend group.2 = [] then recent
      else Lru.keysAfter limit recent (cacheKey jwksUri group.1))
    recent

variable {backend : Backend} {parked : Parked} {cache : JwksCache} {key : String}
variable {kid jwksUri : String} {keys : List Jwk} {nowS : Int}
variable {groups : List ((_ : String) × List Jwk)}

/-- Ingesting the keys of a kid brings a new kid to the front, and leaves the order of
the others. -/
theorem values_onPassiveFetchSuccess (consistent : cache.Consistent) :
    (cache.onPassiveFetchSuccess kid keys nowS jwksUri).hitLru.values =
      if keys = [] then cache.hitLru.values
      else Lru.keysAfter cache.maxEntries.1 cache.hitLru.values (cacheKey jwksUri kid) := by
  by_cases isEmpty : keys = []
  · rw [if_pos isEmpty, JwksCache.onPassiveFetchSuccess, if_pos isEmpty]
  · rw [if_neg isEmpty, JwksCache.onPassiveFetchSuccess, if_neg isEmpty, Lru.keysAfter]
    cases found : cache.findHit jwksUri kid with
    | some hit =>
        have listed : cacheKey jwksUri kid ∈ cache.hitLru.values :=
          consistent.hits.mem_values_iff.mpr (Option.isSome_iff_exists.mpr ⟨hit, found⟩)
        rw [if_pos listed]
    | none =>
        have absent : cache.hits.lookup (cacheKey jwksUri kid) = none := found
        have unlisted : cacheKey jwksUri kid ∉ cache.hitLru.values := by
          rw [consistent.hits.mem_values_iff, absent]
          simp
        have stored := Lru.storeNew_stored (JwksCache.newEntry cache keys nowS)
          consistent.hits consistent.hits_le cache.maxEntries.2 absent rfl
        rw [if_neg unlisted, JwksCache.onFetchSuccess_new_eq isEmpty absent]
        simpa [JwksCache.newEntry] using stored.values_eq

theorem coldGroupKeys_eq_nil_iff (group : (_ : String) × List Jwk) :
    coldGroupKeys backend parked group = [] ↔ screenUsableKeys backend group.2 = [] := by
  have perm := coldGroupKeys_perm backend parked group
  constructor
  · intro empty
    rw [empty] at perm
    exact perm.nil_eq.symm
  · intro empty
    rw [empty] at perm
    exact perm.eq_nil

/-- The recency of the keys after a document is ingested. -/
theorem values_ingestOperations (consistent : cache.Consistent) :
    (cache.applyAll (ingestOperations backend parked groups)).hitLru.values =
      recencyAfter backend parked.call.jwksUri cache.maxEntries.1 groups
        cache.hitLru.values := by
  induction groups generalizing cache with
  | nil => rfl
  | cons group groups inductionHypothesis =>
      have applied := JwksCache.apply_applied consistent (.onPassiveFetchSuccess group.1
        (coldGroupKeys backend parked group) parked.call.opts.nowS parked.call.jwksUri)
      have later := inductionHypothesis applied.consistent
      rw [applied.maxEntries_eq, JwksCache.apply, values_onPassiveFetchSuccess consistent]
        at later
      simp only [coldGroupKeys_eq_nil_iff] at later
      exact later

theorem recencyAfter_append
    (limit : Nat)
    (earlier later : List ((_ : String) × List Jwk))
    (recent : List String) :
    recencyAfter backend jwksUri limit (earlier ++ later) recent =
      recencyAfter backend jwksUri limit later
        (recencyAfter backend jwksUri limit earlier recent) :=
  List.foldl_append

/-- Ingesting other kids keeps an entry or loses it. -/
theorem lookup_ingestOperations_cases
    (consistent : cache.Consistent)
    (others : ∀ group ∈ groups, key ≠ cacheKey parked.call.jwksUri group.1) :
    (cache.applyAll (ingestOperations backend parked groups)).hits.lookup key = none ∨
      (cache.applyAll (ingestOperations backend parked groups)).hits.lookup key =
        cache.hits.lookup key := by
  induction groups generalizing cache with
  | nil => exact .inr rfl
  | cons group groups inductionHypothesis =>
      have applied := JwksCache.apply_applied consistent (.onPassiveFetchSuccess group.1
        (coldGroupKeys backend parked group) parked.call.opts.nowS parked.call.jwksUri)
      have unchanged : cache.entryAfter key (cache.hits.lookup key)
          (.onPassiveFetchSuccess group.1 (coldGroupKeys backend parked group)
            parked.call.opts.nowS parked.call.jwksUri) = cache.hits.lookup key :=
        if_neg fun isKey => others group List.mem_cons_self isKey.1
      have first := applied.lookup_hits key
      rw [unchanged] at first
      rcases inductionHypothesis applied.consistent fun other member =>
        others other (List.mem_cons_of_mem _ member) with gone | same
      · exact .inl gone
      · split at first
        · exact .inl (same.trans first)
        · exact .inr (same.trans first)

variable (backend) in
/-- Ingesting other kids leaves an entry as it is, while its key is a recent one. -/
theorem lookup_ingestOperations_of_others
    (consistent : cache.Consistent)
    (others : ∀ group ∈ groups, key ≠ cacheKey parked.call.jwksUri group.1) :
    (cache.applyAll (ingestOperations backend parked groups)).hits.lookup key =
      if key ∈ recencyAfter backend parked.call.jwksUri cache.maxEntries.1 groups
          cache.hitLru.values then
        cache.hits.lookup key
      else none := by
  have stays := JwksCache.applyAll_consistent (ingestOperations backend parked groups)
    consistent
  rw [stays.hits.lookup_eq_ite, values_ingestOperations consistent]
  split
  · next recent =>
      rcases lookup_ingestOperations_cases consistent others with gone | same
      · rw [← values_ingestOperations consistent, stays.hits.mem_values_iff, gone] at recent
        cases recent
      · exact same
  · rfl

/-! ## The entry of the token's kid -/

/-- The keys of the token's kid in the order in which they are ingested, and the
verdict under the one that was moved to the front. -/
def offeredKeys
    (backend : Backend)
    (parked : Parked)
    (keys : List Jwk) : List Jwk × Option VerifyResult :=
  prioritizeMatchingKey backend (usableKeys backend keys parked.parsed.kid)
    parked.call.token parked.parsed.alg parked.call.opts

/-- The keys of the token's kid that are cached once its group was visited: those that
still fit beside the cached ones, if another call has cached the kid meanwhile. -/
def storedKeys
    (backend : Backend)
    (parked : Parked)
    (keys : List Jwk)
    (earlier : List ((_ : String) × List Jwk))
    (cache : JwksCache) : List Jwk :=
  let key := cacheKey parked.call.jwksUri parked.parsed.kid
  let recent := recencyAfter backend parked.call.jwksUri cache.maxEntries.1 earlier
    cache.hitLru.values
  let offered := (offeredKeys backend parked keys).1
  match if key ∈ recent then cache.hits.lookup key else none with
  | some hit => JwksCache.dropOldest (JwksCache.unionKeys hit.keys offered)
  | none => JwksCache.trimToCap offered

theorem offeredKeys_ne_nil
    (usable : usableKeys backend keys parked.parsed.kid ≠ []) :
    (offeredKeys backend parked keys).1 ≠ [] := by
  intro empty
  have perm : (offeredKeys backend parked keys).1.Perm
      (usableKeys backend keys parked.parsed.kid) := prioritizeMatchingKey_perm _ _ _ _ _
  rw [empty] at perm
  exact usable perm.nil_eq.symm

variable (kid jwksUri nowS) in
/-- The kid's own group stores its keys, whatever room there is. -/
theorem lookup_onPassiveFetchSuccess_self
    (consistent : cache.Consistent)
    (nonempty : keys ≠ []) :
    (cache.onPassiveFetchSuccess kid keys nowS jwksUri).hits.lookup (cacheKey jwksUri kid) =
      some (JwksCache.extendedEntry cache keys nowS
        (cache.hits.lookup (cacheKey jwksUri kid))) := by
  have applied := JwksCache.onPassiveFetchSuccess_applied consistent kid keys nowS jwksUri
  have remains : cache.droppedHit (.onPassiveFetchSuccess kid keys nowS jwksUri) ≠
      some (cacheKey jwksUri kid) := by
    intro dropped
    have absent := Option.ite_none_left_eq_some.mp dropped
    have present := consistent.hits.isSome_lookup_of_victim absent.2
    exact absent.1 (.inr present)
  rw [applied.lookup_hits, if_neg remains]
  exact if_pos ⟨rfl, nonempty⟩

variable (backend) in
/-- What the visited groups leave for the token's kid. -/
theorem lookup_ingestOperations_target
    {earlier later : List ((_ : String) × List Jwk)}
    (consistent : cache.Consistent)
    (usable : usableKeys backend keys parked.parsed.kid ≠ [])
    (key_eq : key = cacheKey parked.call.jwksUri parked.parsed.kid)
    (groups_eq : groups = earlier ++
      ⟨parked.parsed.kid, listedKeys keys parked.parsed.kid⟩ :: later)
    (others : ∀ group ∈ earlier ++ later, key ≠ cacheKey parked.call.jwksUri group.1) :
    ((cache.applyAll (ingestOperations backend parked groups)).hits.lookup key).map
        Entry.keys =
      if key ∈ recencyAfter backend parked.call.jwksUri cache.maxEntries.1 groups
          cache.hitLru.values then
        some (storedKeys backend parked keys earlier cache)
      else none := by
  have beforeVisit := lookup_ingestOperations_of_others backend consistent
    fun group member => others group (List.mem_append_left _ member)
  have reached := JwksCache.applyAll_consistent (ingestOperations backend parked earlier)
    consistent
  have visit := lookup_onPassiveFetchSuccess_self parked.parsed.kid parked.call.jwksUri
    parked.call.opts.nowS reached
    (offeredKeys_ne_nil usable)
  have visited := (JwksCache.onPassiveFetchSuccess_applied reached parked.parsed.kid
    (offeredKeys backend parked keys).1 parked.call.opts.nowS parked.call.jwksUri).consistent
  have afterVisit := lookup_ingestOperations_of_others backend visited
    fun group member => others group (List.mem_append_right _ member)
  have split_eq : cache.applyAll (ingestOperations backend parked groups) =
      ((cache.applyAll (ingestOperations backend parked earlier)).onPassiveFetchSuccess
        parked.parsed.kid (offeredKeys backend parked keys).1 parked.call.opts.nowS
          parked.call.jwksUri).applyAll (ingestOperations backend parked later) := by
    rw [groups_eq, ingestOperations, List.map_append, JwksCache.applyAll, Machine.run_append,
      List.map_cons, Machine.run_cons, coldGroupKeys, if_pos rfl]
    rfl
  rw [← values_ingestOperations visited, ← split_eq, values_ingestOperations consistent]
    at afterVisit
  rw [afterVisit]
  split
  · rw [← key_eq, beforeVisit] at visit
    rw [visit, Option.map_some, storedKeys, ← key_eq]
    generalize (if key ∈ recencyAfter backend parked.call.jwksUri cache.maxEntries.1 earlier
      cache.hitLru.values then cache.hits.lookup key else none) = stored
    cases stored <;> rfl
  · rfl

/-! ## Misses -/

theorem nextNode_missLru_onPassiveFetchSuccess :
    (cache.onPassiveFetchSuccess kid keys nowS jwksUri).missLru.nextNode =
      cache.missLru.nextNode := by
  unfold JwksCache.onPassiveFetchSuccess
  split
  · rfl
  · next nonempty =>
      split
      · rfl
      · next absent =>
          rw [JwksCache.onFetchSuccess_new_eq nonempty absent]
          simp

variable (backend parked key groups) in
/-- Ingesting a document records no miss, and numbers none. -/
theorem misses_ingestOperations (consistent : cache.Consistent) :
    (cache.applyAll (ingestOperations backend parked groups)).missLru.nextNode =
        cache.missLru.nextNode ∧
      ∀ miss,
        (cache.applyAll (ingestOperations backend parked groups)).misses.lookup key =
          some miss →
        cache.misses.lookup key = some miss := by
  induction groups generalizing cache with
  | nil => exact ⟨rfl, fun _ stored => stored⟩
  | cons group groups inductionHypothesis =>
      have applied := JwksCache.apply_applied consistent (.onPassiveFetchSuccess group.1
        (coldGroupKeys backend parked group) parked.call.opts.nowS parked.call.jwksUri)
      obtain ⟨sameNode, kept⟩ := inductionHypothesis applied.consistent
      refine ⟨sameNode.trans nextNode_missLru_onPassiveFetchSuccess, fun miss stored => ?_⟩
      have first := kept miss stored
      rw [applied.lookup_misses] at first
      have remains := (Option.ite_none_left_eq_some.mp first).2
      exact (Option.ite_none_left_eq_some.mp remains).2

/-- A miss that is recorded is told apart from the one recorded before. -/
theorem findMiss_onFetchMiss
    (consistent : cache.Consistent) :
    (cache.onFetchMiss kid nowS jwksUri).findMiss jwksUri kid =
      some { recordedAtS := nowS, lruIt := cache.missLru.nextNode } := by
  have applied := JwksCache.onFetchMiss_applied consistent kid nowS jwksUri
  have remains : cache.droppedMiss (.onFetchMiss kid nowS jwksUri) ≠
      some (cacheKey jwksUri kid) := by
    intro dropped
    have absent := Option.ite_none_left_eq_some.mp dropped
    exact absent.1 (consistent.misses.isSome_lookup_of_victim absent.2)
  rw [JwksCache.findMiss, applied.lookup_misses, if_neg remains]
  exact if_pos rfl

/-! ## The verdict of a cold call -/

theorem foldl_ingestColdGroup_fst_of_others
    {start : Option VerifyResult × JwksCache}
    (others : ∀ group ∈ groups, group.1 ≠ parked.parsed.kid) :
    (groups.foldl (ingestColdGroup backend parked) start).1 = start.1 := by
  induction groups generalizing start with
  | nil => rfl
  | cons group groups inductionHypothesis =>
      rw [List.foldl_cons, inductionHypothesis fun other member =>
        others other (List.mem_cons_of_mem _ member)]
      unfold ingestColdGroup
      dsimp only
      rw [if_neg (others group List.mem_cons_self)]
      split <;> rfl

variable (backend parked cache) in
/-- Only the group of the token's kid gives a verdict. -/
theorem foldl_ingestColdGroup_fst
    {earlier later : List ((_ : String) × List Jwk)}
    (usable : usableKeys backend keys parked.parsed.kid ≠ [])
    (others : ∀ group ∈ earlier ++ later, group.1 ≠ parked.parsed.kid) :
    ((earlier ++ ⟨parked.parsed.kid, listedKeys keys parked.parsed.kid⟩ :: later).foldl
        (ingestColdGroup backend parked) (none, cache)).1 =
      (offeredKeys backend parked keys).2 := by
  have screened : screenUsableKeys backend (listedKeys keys parked.parsed.kid) ≠ [] := usable
  have visit : ∀ state, (ingestColdGroup backend parked state
      ⟨parked.parsed.kid, listedKeys keys parked.parsed.kid⟩).1 =
        (offeredKeys backend parked keys).2.or state.1 := by
    intro state
    unfold ingestColdGroup
    dsimp only
    rw [if_neg screened, if_pos rfl]
    rfl
  rw [List.foldl_append, List.foldl_cons,
    foldl_ingestColdGroup_fst_of_others fun group member =>
      others group (List.mem_append_right _ member),
    visit, foldl_ingestColdGroup_fst_of_others fun group member =>
      others group (List.mem_append_left _ member)]
  exact Option.or_none

theorem offeredKeys_signature
    {verdict : VerifyResult}
    (verified : (offeredKeys backend parked keys).2 = some verdict) :
    signatureMatchesCandidate verdict = true := by
  unfold offeredKeys prioritizeMatchingKey at verified
  split at verified
  · cases verified
  · split at verified
    · cases verified
    · next index result found =>
        cases verified
        exact (firstVerified_some found).2.1

theorem length_le_length_unionKeys (existing added : List Jwk) :
    existing.length ≤ (JwksCache.unionKeys existing added).length := by
  induction added generalizing existing with
  | nil => exact le_refl _
  | cons k rest inductionHypothesis =>
      unfold JwksCache.unionKeys
      split
      · exact inductionHypothesis existing
      · refine le_trans ?_ (inductionHypothesis (existing ++ [k]))
        simp

/-- Adding keys to an entry leaves it some. -/
theorem dropOldest_unionKeys_ne_nil
    {existing added : List Jwk}
    (nonempty : added ≠ []) :
    JwksCache.dropOldest (JwksCache.unionKeys existing added) ≠ [] := by
  have union : JwksCache.unionKeys existing added ≠ [] := by
    cases added with
    | nil => exact absurd rfl nonempty
    | cons k rest =>
        apply List.ne_nil_of_length_pos
        unfold JwksCache.unionKeys
        split
        · next held =>
            obtain ⟨other, member, -⟩ := holdsMaterial_iff.mp held
            exact lt_of_lt_of_le (List.length_pos_of_mem member)
              (length_le_length_unionKeys existing rest)
        · refine lt_of_lt_of_le ?_ (length_le_length_unionKeys (existing ++ [k]) rest)
          simp
  have positive := List.length_pos_of_ne_nil union
  apply List.ne_nil_of_length_pos
  rw [JwksCache.dropOldest, List.length_drop, kMaxKeysPerKid]
  omega

/-- The visit of its group leaves the token's kid some keys. -/
theorem storedKeys_ne_nil
    {earlier : List ((_ : String) × List Jwk)}
    (usable : usableKeys backend keys parked.parsed.kid ≠ []) :
    storedKeys backend parked keys earlier cache ≠ [] := by
  have offered := offeredKeys_ne_nil usable
  unfold storedKeys
  dsimp only
  split
  · exact dropOldest_unionKeys_ne_nil offered
  · unfold JwksCache.trimToCap
    split
    · simp [kMaxKeysPerKid, offered]
    · exact offered

/-- The cache once a cold call has ingested its document. -/
def ingestedCache
    (backend : Backend)
    (parked : Parked)
    (groups : List ((_ : String) × List Jwk))
    (cache : JwksCache) : JwksCache :=
  (cache.recordJwksFetchSuccess parked.call.opts.nowS parked.call.jwksUri).applyAll
    (ingestOperations backend parked groups)

variable (jwksUri nowS) in
theorem recordJwksFetchSuccess_consistent
    (consistent : cache.Consistent) :
    (cache.recordJwksFetchSuccess nowS jwksUri).Consistent :=
  (JwksCache.apply_applied consistent (.recordJwksFetchSuccess nowS jwksUri)).consistent

variable (backend) in
/-- The keys of the token's kid once its document is ingested. -/
theorem findHit_ingestedCache
    {earlier later : List ((_ : String) × List Jwk)}
    (consistent : cache.Consistent)
    (usable : usableKeys backend keys parked.parsed.kid ≠ [])
    (groups_eq : groups = earlier ++
      ⟨parked.parsed.kid, listedKeys keys parked.parsed.kid⟩ :: later)
    (others : ∀ group ∈ earlier ++ later,
      cacheKey parked.call.jwksUri parked.parsed.kid ≠
        cacheKey parked.call.jwksUri group.1) :
    ((ingestedCache backend parked groups cache).findHit parked.call.jwksUri
        parked.parsed.kid).map Entry.keys =
      if cacheKey parked.call.jwksUri parked.parsed.kid ∈
          recencyAfter backend parked.call.jwksUri cache.maxEntries.1 groups
            cache.hitLru.values then
        some (storedKeys backend parked keys earlier cache)
      else none := by
  have target := lookup_ingestOperations_target backend
    (recordJwksFetchSuccess_consistent parked.call.jwksUri parked.call.opts.nowS consistent)
    usable rfl groups_eq others
  simp only [storedKeys, JwksCache.hitLru_recordJwksFetchSuccess,
    JwksCache.maxEntries_recordJwksFetchSuccess, JwksCache.hits_recordJwksFetchSuccess]
    at target ⊢
  exact target

/-- The group of the token's kid is visited between groups of kids that the cache tells
apart from it. -/
theorem visit_split_apart
    (order : IterationOrder String (List Jwk))
    (printable : '\n' ∉ parked.parsed.kid.toList)
    (read : readResponse backend response = .keys keys)
    (usable : usableKeys backend keys parked.parsed.kid ≠ []) :
    let earlier := (order.visit (groupSigningKeysByKid keys)).takeWhile
      fun group => group.1 ≠ parked.parsed.kid
    ∃ later, order.visit (groupSigningKeysByKid keys) =
        earlier ++ ⟨parked.parsed.kid, listedKeys keys parked.parsed.kid⟩ :: later ∧
      ∀ group ∈ earlier ++ later, group.1 ≠ parked.parsed.kid ∧
        cacheKey parked.call.jwksUri parked.parsed.kid ≠
          cacheKey parked.call.jwksUri group.1 := by
  have listed := lookup_groupSigningKeysByKid_eq_some.mpr
    ⟨rfl, listedKeys_ne_nil_of_usable usable⟩
  obtain ⟨later, visit_eq, others⟩ := order.visit_split listed
  refine ⟨later, visit_eq, fun group member => ?_⟩
  have visited : group ∈ order.visit (groupSigningKeysByKid keys) := by
    rw [visit_eq]
    exact List.append_subset.mpr ⟨List.subset_append_left _ _,
      List.Subset.trans (List.subset_cons_self _ _) (List.subset_append_right _ _)⟩ member
  obtain ⟨group_eq, nonempty⟩ :=
    lookup_groupSigningKeysByKid_eq_some.mp (IterationOrder.mem_visit.mp visited)
  rw [group_eq] at nonempty
  refine ⟨others group member, fun same => others group member ?_⟩
  exact (cacheKey_inj printable (printable_of_listed read nonempty) same).2.symm

/-- What a cold call does with a document that has a usable key for its kid. -/
theorem finishCold_of_usable
    {earlier later : List ((_ : String) × List Jwk)}
    (consistent : cache.Consistent)
    (read : readResponse backend response = .keys keys)
    (usable : usableKeys backend keys parked.parsed.kid ≠ [])
    (visit_eq : order.visit (groupSigningKeysByKid keys) = earlier ++
      ⟨parked.parsed.kid, listedKeys keys parked.parsed.kid⟩ :: later)
    (others : ∀ group ∈ earlier ++ later, group.1 ≠ parked.parsed.kid ∧
      cacheKey parked.call.jwksUri parked.parsed.kid ≠
        cacheKey parked.call.jwksUri group.1) :
    finishCold backend parked response order cache =
      let ingested := ingestedCache backend parked
        (order.visit (groupSigningKeysByKid keys)) cache
      if cacheKey parked.call.jwksUri parked.parsed.kid ∈
          recencyAfter backend parked.call.jwksUri cache.maxEntries.1
            (order.visit (groupSigningKeysByKid keys)) cache.hitLru.values then
        { verdict := (offeredKeys backend parked keys).2.getD
            (verifyAgainstCachedKid backend parked.call.token parked.parsed.alg
              (storedKeys backend parked keys earlier cache) parked.call.opts)
          refresh := parked.call.refresh
          cache := ingested }
      else
        { verdict := verdictWithoutHit backend parked.parsed.kid keys
            (groupSigningKeysByKid keys)
          refresh := parked.call.refresh
          cache := ingested.onFetchMiss parked.parsed.kid parked.call.opts.nowS
            parked.call.jwksUri } := by
  have target := findHit_ingestedCache backend consistent usable visit_eq
    fun group member => (others group member).2
  have verified := foldl_ingestColdGroup_fst backend parked
    (cache.recordJwksFetchSuccess parked.call.opts.nowS parked.call.jwksUri) usable
    fun group member => (others group member).1
  have ingested : ((order.visit (groupSigningKeysByKid keys)).foldl
      (ingestColdGroup backend parked) (none, cache.recordJwksFetchSuccess
        parked.call.opts.nowS parked.call.jwksUri)).2 =
      ingestedCache backend parked (order.visit (groupSigningKeysByKid keys)) cache :=
    foldl_ingestColdGroup_cache _ _
  rw [← visit_eq] at verified
  have folded : (order.visit (groupSigningKeysByKid keys)).foldl
      (ingestColdGroup backend parked) (none, cache.recordJwksFetchSuccess
        parked.call.opts.nowS parked.call.jwksUri) =
      ((offeredKeys backend parked keys).2, ingestedCache backend parked
        (order.visit (groupSigningKeysByKid keys)) cache) :=
    Prod.ext verified ingested
  unfold finishCold
  simp only [read, folded]
  split at target
  · next room =>
      obtain ⟨hit, found, keys_eq⟩ := Option.map_eq_some_iff.mp target
      have nonempty : ¬(JwksLookupStatus.hit ≠ .hit ∨ hit.keys = []) := by
        simp [keys_eq, storedKeys_ne_nil usable]
      rw [lookup_of_findHit found, if_neg nonempty, if_pos room, keys_eq]
      cases offered : (offeredKeys backend parked keys).2 with
      | none => rfl
      | some verdict =>
          rw [Option.filter_some, if_pos (offeredKeys_signature offered)]
          rfl
  · next noRoom =>
      have notHit := status_ne_hit parked.call.opts.nowS
        (Option.map_eq_none_iff.mp target)
      rw [if_neg noRoom, if_pos (.inl notHit)]

end Validator
end QuackOauth
