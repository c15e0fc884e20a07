import QuackOauth.Validator.Ingest
import QuackOauth.Validator.Refresh
import QuackOauth.Validator.StableProvider

/-!
# Rotated keys are found

A call fetches a document with a key that signed its token.  However many keys of the kid
the document and the cache hold, the call ends with the verdict under that key, and keeps a
key with which the next call decides alone.
-/

namespace QuackOauth
namespace Validator

open Lib Jwks Jwt

/-- Keys settle a token: one of them verifies it, and all that do give the same verdict. -/
structure Settles
    (backend : Backend)
    (parked : Parked)
    (keys : List Jwk)
    (verdict : VerifyResult) : Prop where
  verified : ∃ k ∈ keys, verifiesToken backend parked k = true
  agreed : ∀ k ∈ keys, verifiesToken backend parked k = true →
    verifyJwt backend parked.call.token k parked.call.opts = verdict

variable {backend : Backend} {parked : Parked} {keys usable : List Jwk}
variable {verdict : VerifyResult} {cache : JwksCache} {hit : Entry} {key jwksUri : String}
variable {response : Option Response} {order : IterationOrder String (List Jwk)}

/-! ## Keys that settle a token -/

theorem verifiesToken_iff {k : Jwk} :
    verifiesToken backend parked k = true ↔
      jwkMatchesTokenHeader k parked.parsed.alg = true ∧
        signatureMatchesCandidate
          (verifyJwt backend parked.call.token k parked.call.opts) = true := by
  rw [verifiesToken, Bool.and_eq_true]

theorem Settles.signature (settles : Settles backend parked keys verdict) :
    signatureMatchesCandidate verdict = true := by
  obtain ⟨k, member, verifies⟩ := settles.verified
  rw [← settles.agreed k member verifies]
  exact (verifiesToken_iff.mp verifies).2

/-- Fewer keys settle a token as long as one is left that verifies it. -/
theorem Settles.of_subset
    {kept : List Jwk}
    (settles : Settles backend parked keys verdict)
    (subset : kept ⊆ keys)
    (verified : ∃ k ∈ kept, verifiesToken backend parked k = true) :
    Settles backend parked kept verdict where
  verified := verified
  agreed := fun k member => settles.agreed k (subset member)

/-- The cached keys that settle a token decide it. -/
theorem Settles.verifyWithCachedKeys_eq (settles : Settles backend parked keys verdict) :
    matchingKeys keys parked.parsed.alg ≠ [] ∧
      verifyWithCachedKeys backend parked.call.token (matchingKeys keys parked.parsed.alg)
        parked.call.opts = verdict := by
  obtain ⟨k, member, verifies⟩ := settles.verified
  obtain ⟨nonempty, decider, inKeys, deciderMatches, signature, verdict_eq⟩ :=
    verifyWithCachedKeys_matching_of_signature ⟨k, member, verifiesToken_iff.mp verifies⟩
  refine ⟨nonempty, ?_⟩
  rw [verdict_eq]
  exact settles.agreed decider inKeys (verifiesToken_iff.mpr ⟨deciderMatches, signature⟩)

theorem Settles.verifyAgainstCachedKid_eq (settles : Settles backend parked keys verdict) :
    verifyAgainstCachedKid backend parked.call.token parked.parsed.alg keys
      parked.call.opts = verdict := by
  obtain ⟨nonempty, decides⟩ := settles.verifyWithCachedKeys_eq
  exact (if_neg nonempty).trans decides

theorem Settles.not_callsForRefresh (settles : Settles backend parked keys verdict) :
    callsForRefresh backend parked.call parked.parsed keys = false := by
  obtain ⟨nonempty, decides⟩ := settles.verifyWithCachedKeys_eq
  simp [callsForRefresh, nonempty, decides,
    isCachedKeyUnusable_of_signature settles.signature]

/-- The keys that settle a token are selected from. -/
theorem Settles.selectAndVerify_eq (settles : Settles backend parked keys verdict) :
    selectAndVerify backend parked.call.token parked.parsed.alg parked.call.opts
      (matchingKeys keys parked.parsed.alg) = some verdict := by
  have selects : ∀ candidates : List Jwk,
      (∃ k ∈ candidates, verifiesToken backend parked k = true) →
      ∃ k ∈ candidates, verifiesToken backend parked k = true ∧
        selectAndVerify backend parked.call.token parked.parsed.alg parked.call.opts
          candidates = some (verifyJwt backend parked.call.token k parked.call.opts) := by
    intro candidates
    induction candidates with
    | nil =>
        rintro ⟨k, impossible, -⟩
        cases impossible
    | cons cand rest inductionHypothesis =>
        rintro ⟨k, member, verifies⟩
        rw [selectAndVerify]
        by_cases passes : verifiesToken backend parked cand = true
        · exact ⟨cand, List.mem_cons_self, passes, if_pos passes⟩
        · have later : k ∈ rest := by
            rcases List.mem_cons.mp member with rfl | later
            · exact absurd verifies passes
            · exact later
          obtain ⟨other, otherMember, otherVerifies, selected⟩ :=
            inductionHypothesis ⟨k, later, verifies⟩
          exact ⟨other, List.mem_cons_of_mem _ otherMember, otherVerifies,
            (if_neg passes).trans selected⟩
  obtain ⟨k, member, verifies⟩ := settles.verified
  have matching := mem_matchingKeys.mpr ⟨member, (verifiesToken_iff.mp verifies).1⟩
  obtain ⟨other, otherMember, otherVerifies, selected⟩ := selects _ ⟨k, matching, verifies⟩
  rw [selected, settles.agreed other (mem_matchingKeys.mp otherMember).1 otherVerifies]

/-- A key of the document that signed the token, if all such keys agree, makes the usable
keys of its kid settle the token. -/
theorem SignedBy.settles
    {k : Jwk}
    (signed : SignedBy backend keys parked.call parked.parsed k)
    (agreed : ∀ other, SignedBy backend keys parked.call parked.parsed other →
      verifyJwt backend parked.call.token other parked.call.opts =
        verifyJwt backend parked.call.token k parked.call.opts) :
    Settles backend parked (usableKeys backend keys parked.parsed.kid)
      (verifyJwt backend parked.call.token k parked.call.opts) where
  verified := by
    let entry : Entry := { keys := usableKeys backend keys parked.parsed.kid, lruIt := 0 }
    have keys_perm : entry.keys.Perm (usableKeys backend keys parked.parsed.kid) :=
      List.Perm.refl _
    obtain ⟨other, member, otherSigned⟩ := signed.stored keys_perm
    exact ⟨other, member, verifiesToken_iff.mpr ⟨otherSigned.matching, otherSigned.signature⟩⟩
  agreed := by
    intro other member verifies
    obtain ⟨inDocument, -, kid_eq⟩ :=
      mem_listedKeys.mp (mem_of_mem_screenUsableKeys member).1
    obtain ⟨matchesHeader, signature⟩ := verifiesToken_iff.mp verifies
    exact agreed other ⟨signed.parses, inDocument, kid_eq, matchesHeader, signature⟩

/-! ## Candidates in order -/

/-- Of several candidates, the one that verifies is moved to the front. -/
theorem Settles.arranged_cases
    (settles : Settles backend parked usable verdict) :
    let arranged := prioritizeMatchingKey backend usable parked.call.token
      parked.parsed.alg parked.call.opts
    (usable.length ≤ 1 ∧ arranged = (usable, none)) ∨
      arranged.2 = some verdict ∧
        ∃ k, arranged.1.head? = some k ∧ verifiesToken backend parked k = true := by
  intro arranged
  have arranged_eq : arranged = _ := prioritizeMatchingKey_eq
  by_cases single : usable.length ≤ 1
  · exact .inl ⟨single, arranged_eq.trans (if_pos single)⟩
  · rw [if_neg single] at arranged_eq
    obtain ⟨k, member, verifies⟩ := settles.verified
    cases first : usable.findIdx? (verifiesToken backend parked) with
    | none =>
        have contrary := List.findIdx?_eq_none_iff.mp first k member
        rw [verifies] at contrary
        cases contrary
    | some index =>
        right
        obtain ⟨inBounds, found, -⟩ := List.findIdx?_eq_some_iff_getElem.mp first
        have located := List.getElem?_eq_getElem inBounds
        rw [first] at arranged_eq
        simp only [located, Option.map_some] at arranged_eq
        rw [arranged_eq]
        refine ⟨?_, usable[index], head?_swapFront located, found⟩
        exact congrArg some (settles.agreed _ (List.getElem_mem inBounds) found)

/-- The keys that fit settle the token as well, and so does the verdict that was found. -/
theorem Settles.arranged
    (settles : Settles backend parked usable verdict) :
    let arranged := prioritizeMatchingKey backend usable parked.call.token
      parked.parsed.alg parked.call.opts
    Settles backend parked (arranged.1.take kMaxKeysPerKid) verdict ∧
      (arranged.2 = none ∨ arranged.2 = some verdict) := by
  intro arranged
  have perm : arranged.1.Perm usable := prioritizeMatchingKey_perm _ _ _ _ _
  have subset : arranged.1.take kMaxKeysPerKid ⊆ usable :=
    fun _ member => perm.subset (List.mem_of_mem_take member)
  rcases settles.arranged_cases with ⟨single, unmoved⟩ | ⟨moved, k, front, verifies⟩
  · have arranged_eq : arranged = (usable, none) := unmoved
    have few : usable.length ≤ kMaxKeysPerKid := Nat.le_trans single (by decide)
    refine ⟨settles.of_subset subset ?_, .inl (by rw [arranged_eq])⟩
    rw [arranged_eq, List.take_of_length_le few]
    exact settles.verified
  · refine ⟨settles.of_subset subset ⟨k, ?_, verifies⟩, .inr moved⟩
    rw [← trimToCap_eq_take]
    exact mem_trimToCap_of_head? front

/-- With a candidate that verifies, no other order matters. -/
theorem Settles.commitCandidates_eq
    {group : List Jwk}
    (settles : Settles backend parked (screenUsableKeys backend group) verdict)
    (liveKeys : List Jwk) :
    commitCandidates backend parked group liveKeys =
      prioritizeMatchingKey backend (screenUsableKeys backend group) parked.call.token
        parked.parsed.alg parked.call.opts := by
  unfold commitCandidates
  dsimp only
  rcases settles.arranged_cases with ⟨single, unmoved⟩ | ⟨moved, -⟩
  · have few : (screenUsableKeys backend group).length ≤ kMaxKeysPerKid :=
      Nat.le_trans single (by decide)
    rw [unmoved]
    simp only [Option.isNone_none, if_true, prioritizeNewKeys]
    rw [if_pos (.inl few)]
  · exact if_neg (by simp [moved])

/-! ## Room for the kid -/

variable (backend jwksUri) in
/-- Ingesting a group pushes the other keys back by one place at most. -/
theorem mem_take_recencyAfter
    {limit count : Nat}
    {groups : List ((_ : String) × List Jwk)}
    {recent : List String}
    (member : key ∈ recent.take count)
    (room : count + groups.length ≤ limit) :
    key ∈ (recencyAfter backend jwksUri limit groups recent).take
      (count + groups.length) := by
  induction groups generalizing count recent with
  | nil => exact member
  | cons group groups inductionHypothesis =>
      rw [List.length_cons] at room ⊢
      have next : key ∈ (if screenUsableKeys backend group.2 = [] then recent
          else Lru.keysAfter limit recent (cacheKey jwksUri group.1)).take (count + 1) := by
        split
        · exact (List.take_sublist_take_left (Nat.le_succ count)).subset member
        · exact Lru.mem_take_keysAfter member (by omega)
      have later := inductionHypothesis next (by omega)
      rw [Nat.add_assoc, Nat.add_comm 1] at later
      exact later

/-- A kid that was not cached is among the recent ones once its document is ingested, if
the document has no more kids than there is room for. -/
theorem mem_recencyAfter_of_new
    {earlier later : List ((_ : String) × List Jwk)}
    (consistent : cache.Consistent)
    (key_eq : key = cacheKey parked.call.jwksUri parked.parsed.kid)
    (absent : cache.hits.lookup key = none)
    (usable : usableKeys backend keys parked.parsed.kid ≠ [])
    (others : ∀ group ∈ earlier, key ≠ cacheKey parked.call.jwksUri group.1)
    (room : later.length + 1 ≤ cache.maxEntries.1) :
    key ∈ recencyAfter backend parked.call.jwksUri cache.maxEntries.1
      (earlier ++ ⟨parked.parsed.kid, listedKeys keys parked.parsed.kid⟩ :: later)
      cache.hitLru.values := by
  have reached := JwksCache.applyAll_consistent (ingestOperations backend parked earlier)
    consistent
  have values : (cache.applyAll (ingestOperations backend parked earlier)).hitLru.values =
      recencyAfter backend parked.call.jwksUri cache.maxEntries.1 earlier
        cache.hitLru.values := values_ingestOperations consistent
  have unstored : (cache.applyAll (ingestOperations backend parked earlier)).hits.lookup
      key = none := by
    rcases lookup_ingestOperations_cases consistent others with gone | same
    · exact gone
    · exact same.trans absent
  have unlisted : key ∉ recencyAfter backend parked.call.jwksUri cache.maxEntries.1 earlier
      cache.hitLru.values := by
    rw [← values, reached.hits.mem_values_iff, unstored]
    simp
  have screened : screenUsableKeys backend (listedKeys keys parked.parsed.kid) ≠ [] := usable
  have stored := Lru.mem_take_keysAfter_self unlisted cache.maxEntries.2
  have kept := mem_take_recencyAfter backend parked.call.jwksUri stored
    (show 1 + later.length ≤ cache.maxEntries.1 by omega)
  rw [recencyAfter_append, recencyAfter, List.foldl_cons, if_neg screened]
  rw [← key_eq]
  exact List.mem_of_mem_take kept

/-! ## The cold path -/

theorem Settles.usable_ne_nil
    (settles : Settles backend parked usable verdict) :
    usable ≠ [] := by
  obtain ⟨k, member, -⟩ := settles.verified
  exact List.ne_nil_of_mem member

/-- A kid that was not cached gets the first keys of its document. -/
theorem storedKeys_of_new
    {earlier : List ((_ : String) × List Jwk)}
    (absent : cache.findHit parked.call.jwksUri parked.parsed.kid = none) :
    storedKeys backend parked keys earlier cache =
      (offeredKeys backend parked keys).1.take kMaxKeysPerKid := by
  have absent : cache.hits.lookup (cacheKey parked.call.jwksUri parked.parsed.kid) = none :=
    absent
  rw [← trimToCap_eq_take]
  unfold storedKeys
  dsimp only
  rw [absent, ite_self]

/-- A cold call whose document settles the token gives its verdict, and leaves an entry
that settles it too. -/
theorem finishCold_settles
    (order : IterationOrder String (List Jwk))
    (consistent : cache.Consistent)
    (absent : cache.findHit parked.call.jwksUri parked.parsed.kid = none)
    (printable : '\n' ∉ parked.parsed.kid.toList)
    (read : readResponse backend response = .keys keys)
    (settles : Settles backend parked (usableKeys backend keys parked.parsed.kid) verdict)
    (kids_le : UnorderedMap.size (groupSigningKeysByKid keys) ≤ cache.maxEntries.1) :
    let outcome := finishCold backend parked response order cache
    outcome.verdict = verdict ∧
      ∃ hit, outcome.cache.findHit parked.call.jwksUri parked.parsed.kid = some hit ∧
        Settles backend parked hit.keys verdict := by
  intro outcome
  have usable := settles.usable_ne_nil
  obtain ⟨later, visit_eq, apart⟩ := visit_split_apart order printable read usable
  have room : later.length + 1 ≤ cache.maxEntries.1 := by
    have visited := order.length_visit (groupSigningKeysByKid keys)
    rw [visit_eq, List.length_append, List.length_cons] at visited
    omega
  have recent := mem_recencyAfter_of_new consistent rfl absent usable
    (fun group member => (apart group (List.mem_append_left _ member)).2) room
  rw [← visit_eq] at recent
  have target := findHit_ingestedCache backend consistent usable visit_eq
    fun group member => (apart group member).2
  rw [if_pos recent, storedKeys_of_new absent] at target
  obtain ⟨hit, found, keys_eq⟩ := Option.map_eq_some_iff.mp target
  obtain ⟨kept, verdict_cases⟩ := settles.arranged
  have outcome_eq : outcome = _ := finishCold_of_usable consistent read usable visit_eq apart
  rw [if_pos recent, storedKeys_of_new absent] at outcome_eq
  rw [outcome_eq]
  refine ⟨?_, hit, found, ?_⟩
  · have offered_cases : (offeredKeys backend parked keys).2 = none ∨
        (offeredKeys backend parked keys).2 = some verdict := verdict_cases
    rcases offered_cases with unverified | verified
    · rw [unverified]
      exact kept.verifyAgainstCachedKid_eq
    · rw [verified]
      rfl
  · rw [keys_eq]
    exact kept

/-! ## The refresh path -/

/-- What a refresh does for the siblings of its kid is what a cold call would do. -/
theorem siblingOperations_eq (keysByKid : UnorderedMap String (List Jwk)) :
    siblingOperations backend order keysByKid parked.parsed.kid parked.call.opts.nowS
        parked.call.jwksUri =
      .reconcileAbsentKids (keysByKid.keys.filter fun kid => kid ≠ "") parked.call.jwksUri
          parked.parsed.kid ::
        ingestOperations backend parked
          ((order.visit keysByKid).filter fun group => group.1 ≠ parked.parsed.kid) := by
  rw [siblingOperations, ingestOperations]
  congr 1
  apply List.map_congr_left
  intro group member
  have isSibling := of_decide_eq_true (List.mem_filter.mp member).2
  rw [coldGroupKeys, if_neg isSibling]

/-- A commit makes its kid the most recent one. -/
theorem mem_take_values_commitRefresh
    {kid : String}
    {reservationId : Nat}
    {candidates : List Jwk}
    {nowS : Int}
    (succeeds : (cache.commitRefresh kid reservationId candidates nowS jwksUri).1 = true) :
    cacheKey jwksUri kid ∈
      (cache.commitRefresh kid reservationId candidates nowS jwksUri).2.hitLru.values.take
        1 := by
  unfold JwksCache.commitRefresh at succeeds ⊢
  split at succeeds
  · cases succeeds
  · next effective =>
      rw [if_neg effective]
      split at succeeds
      · cases succeeds
      · split at succeeds
        · cases succeeds
        · next awaited =>
            split at succeeds
            · cases succeeds
            · next notRewound =>
                simp only [if_neg awaited, if_neg notRewound]
                exact List.mem_cons_self

/-- Reconciling absent kids changes the order of none. -/
theorem values_reconcileAbsentKids_sublist
    (presentKids : List String)
    (jwksUri excludeKid : String)
    (cache : JwksCache) :
    (cache.reconcileAbsentKids presentKids jwksUri excludeKid).hitLru.values.Sublist
      cache.hitLru.values :=
  Lru.values_foldl_erase_sublist
    (fun evicted : (_ : String) × Entry => evicted.2.lruIt) _ cache.hitLru

/-- The siblings of the most recent kid leave its entry alone, if the document has no more
kids than there is room for. -/
theorem findHit_ingestSiblingKeys
    (order : IterationOrder String (List Jwk))
    (consistent : cache.Consistent)
    (kid_ne : parked.parsed.kid ≠ "")
    (printable : '\n' ∉ parked.parsed.kid.toList)
    (read : readResponse backend response = .keys keys)
    (listed : listedKeys keys parked.parsed.kid ≠ [])
    (kids_le : UnorderedMap.size (groupSigningKeysByKid keys) ≤ cache.maxEntries.1)
    (found : cache.findHit parked.call.jwksUri parked.parsed.kid = some hit)
    (recent : cacheKey parked.call.jwksUri parked.parsed.kid ∈ cache.hitLru.values.take 1) :
    (ingestSiblingKeys backend order (groupSigningKeysByKid keys) parked.parsed.kid
      parked.call.opts.nowS parked.call.jwksUri cache).findHit parked.call.jwksUri
        parked.parsed.kid = some hit := by
  rw [ingestSiblingKeys_cache, siblingOperations_eq, JwksCache.applyAll, Machine.run_cons]
  generalize reconcile_eq : Operation.reconcileAbsentKids
    ((groupSigningKeysByKid keys).keys.filter fun kid => kid ≠ "") parked.call.jwksUri
      parked.parsed.kid = reconcile
  have applied := JwksCache.apply_applied consistent reconcile
  have spared : (cache.apply reconcile).hits.lookup
      (cacheKey parked.call.jwksUri parked.parsed.kid) = some hit := by
    rw [← reconcile_eq]
    rw [reconcileAbsentKids_spares _ kid_ne printable cache not_false]
    exact found
  have stillRecent : cacheKey parked.call.jwksUri parked.parsed.kid ∈
      (cache.apply reconcile).hitLru.values.take 1 := by
    apply Lru.mem_take_of_sublist consistent.hits.nodup_values _ recent
    · rw [applied.consistent.hits.mem_values_iff, spared]
      rfl
    · rw [← reconcile_eq]
      exact values_reconcileAbsentKids_sublist _ _ _ cache
  have visited : (⟨parked.parsed.kid, listedKeys keys parked.parsed.kid⟩ :
      (_ : String) × List Jwk) ∈ order.visit (groupSigningKeysByKid keys) :=
    mem_visit_of_listed order listed
  have fewer : ((order.visit (groupSigningKeysByKid keys)).filter
      fun group => group.1 ≠ parked.parsed.kid).length <
        UnorderedMap.size (groupSigningKeysByKid keys) := by
    rw [← order.length_visit]
    exact List.length_filter_lt_length_iff_exists.mpr ⟨_, visited, by simp⟩
  have others : ∀ group ∈ (order.visit (groupSigningKeysByKid keys)).filter
      fun group => group.1 ≠ parked.parsed.kid,
      cacheKey parked.call.jwksUri parked.parsed.kid ≠
        cacheKey parked.call.jwksUri group.1 := by
    intro group member same
    obtain ⟨inDocument, isSibling⟩ := List.mem_filter.mp member
    have sibling := lookup_groupSigningKeysByKid_eq_some.mp
      (IterationOrder.mem_visit.mp inDocument)
    have printableSibling := printable_of_listed read (sibling.1 ▸ sibling.2)
    exact of_decide_eq_true isSibling (cacheKey_inj printable printableSibling same).2.symm
  have room : 1 + ((order.visit (groupSigningKeysByKid keys)).filter
      fun group => group.1 ≠ parked.parsed.kid).length ≤
        (cache.apply reconcile).maxEntries.1 := by
    rw [applied.maxEntries_eq]
    omega
  have kept := mem_take_recencyAfter backend parked.call.jwksUri stillRecent room
  rw [JwksCache.findHit, lookup_ingestOperations_of_others backend applied.consistent others,
    if_pos (List.mem_of_mem_take kept), spared]

/-- A reserved refresh commits the keys of its kid in the order in which the token is
tried. -/
theorem Reserved.commitTargetKid_eq
    {reservationId : Nat}
    (reserved : Reserved backend parked reservationId hit cache)
    (settles : Settles backend parked (usableKeys backend keys parked.parsed.kid) verdict) :
    let attempt :=
      commitTargetKid backend parked reservationId (groupSigningKeysByKid keys) cache
    (offeredKeys backend parked keys).1 ≠ [] ∧
      attempt.1 = (offeredKeys backend parked keys).2 ∧
      attempt.2.2 = (cache.commitRefresh parked.parsed.kid reservationId
        (offeredKeys backend parked keys).1 parked.call.opts.nowS parked.call.jwksUri).2 := by
  intro attempt
  have usable := settles.usable_ne_nil
  have nonempty := offeredKeys_ne_nil usable
  have screened : screenUsableKeys backend (listedKeys keys parked.parsed.kid) ≠ [] := usable
  have grouped := lookup_groupSigningKeysByKid_eq_some.mpr
    ⟨rfl, listedKeys_ne_nil_of_usable usable⟩
  have live : (cache.lookup parked.parsed.kid parked.call.opts.nowS
      parked.call.jwksUri).keys = hit.keys := by
    rw [lookup_of_findHit reserved.found]
  have arranged : commitCandidates backend parked (listedKeys keys parked.parsed.kid)
      hit.keys = offeredKeys backend parked keys := Settles.commitCandidates_eq settles hit.keys
  have attempt_eq : attempt = commitTargetKid backend parked reservationId
    (groupSigningKeysByKid keys) cache := rfl
  simp only [commitTargetKid, grouped, if_neg screened, live, arranged, commitAndAudit,
    reserved.commitRefresh nonempty, if_true] at attempt_eq
  rw [attempt_eq]
  exact ⟨nonempty, rfl, rfl⟩

/-- Keys that settle the token confirm the verdict that a refresh found. -/
theorem reverifyAfterCommit_eq
    {cachedVerified : Option VerifyResult}
    (found : cache.findHit parked.call.jwksUri parked.parsed.kid = some hit)
    (settles : Settles backend parked hit.keys verdict)
    (verdict_cases : cachedVerified = none ∨ cachedVerified = some verdict) :
    reverifyAfterCommit backend parked cachedVerified cache = verdict := by
  rcases verdict_cases with rfl | rfl
  · have matching := settles.verifyWithCachedKeys_eq.1
    unfold reverifyAfterCommit
    simp [lookup_of_findHit found, settles.usable_ne_nil, matching,
      settles.selectAndVerify_eq]
  · rfl

/-- A refresh whose document settles the token gives its verdict, and leaves an entry that
settles it too. -/
theorem Reserved.finishRefresh_settles
    {reservationId : Nat}
    (reserved : Reserved backend parked reservationId hit cache)
    (cachedResult : VerifyResult)
    (order : IterationOrder String (List Jwk))
    (consistent : cache.Consistent)
    (kid_ne : parked.parsed.kid ≠ "")
    (printable : '\n' ∉ parked.parsed.kid.toList)
    (read : readResponse backend response = .keys keys)
    (settles : Settles backend parked (usableKeys backend keys parked.parsed.kid) verdict)
    (kids_le : UnorderedMap.size (groupSigningKeysByKid keys) ≤ cache.maxEntries.1) :
    let outcome :=
      finishRefresh backend parked reservationId cachedResult response order cache
    outcome.verdict = verdict ∧
      ∃ hit, outcome.cache.findHit parked.call.jwksUri parked.parsed.kid = some hit ∧
        Settles backend parked hit.keys verdict := by
  intro outcome
  have listed := listedKeys_ne_nil_of_usable settles.usable_ne_nil
  obtain ⟨kept, verdict_cases⟩ := settles.arranged
  have live := reserved.of_hits_eq (JwksCache.hits_recordJwksFetchSuccess
    parked.call.opts.nowS parked.call.jwksUri cache)
  obtain ⟨nonempty, verified_eq, cache_eq⟩ := live.commitTargetKid_eq settles
  obtain ⟨entry, stored, keys_eq⟩ := live.findHit_commitRefresh nonempty
  have recent := mem_take_values_commitRefresh (live.commitRefresh nonempty)
  have applied := JwksCache.apply_applied
    (recordJwksFetchSuccess_consistent parked.call.jwksUri parked.call.opts.nowS consistent)
    (.commitRefresh parked.parsed.kid reservationId (offeredKeys backend parked keys).1
      parked.call.opts.nowS parked.call.jwksUri)
  have limit_eq := applied.maxEntries_eq.trans
    (JwksCache.maxEntries_recordJwksFetchSuccess parked.call.opts.nowS parked.call.jwksUri
      cache)
  rw [JwksCache.apply] at applied limit_eq
  rw [← cache_eq] at stored recent applied limit_eq
  have found := findHit_ingestSiblingKeys order applied.consistent kid_ne printable read
    listed (by rw [limit_eq]; exact kids_le) stored recent
  have entrySettles : Settles backend parked entry.keys verdict := by
    rw [keys_eq]
    exact kept
  have outcome_eq : outcome = finishRefresh backend parked reservationId cachedResult
    response order cache := rfl
  simp only [finishRefresh, read] at outcome_eq
  rw [outcome_eq]
  refine ⟨reverifyAfterCommit_eq found entrySettles ?_, entry, found, entrySettles⟩
  rw [verified_eq]
  exact verdict_cases

/-! ## The whole call -/

/-- A call whose document settles its token ends with the verdict, and so does the same
call from then on, without a request. -/
theorem Seasoned.rotates
    {call : Call}
    {requesting : JwksCache}
    (order : IterationOrder String (List Jwk))
    (seasoned : Seasoned backend call.opts.nowS cache)
    (fetches : beginValidation backend call cache = .fetching parked requesting)
    (read : readResponse backend response = .keys keys)
    (settles : Settles backend parked (usableKeys backend keys parked.parsed.kid) verdict)
    (kids_le : UnorderedMap.size (groupSigningKeysByKid keys) ≤ cache.maxEntries.1) :
    let outcome := validateToken backend (answering response) order call cache
    outcome.verdict = verdict ∧
      beginValidation backend call outcome.cache =
        .finished { verdict, refresh := call.refresh, cache := outcome.cache } := by
  intro outcome
  have outcome_eq : outcome = finishValidation backend parked response order requesting := by
    simp only [outcome, validateToken, fetches]
    rfl
  have requesting_eq := beginValidation_cache backend call cache
  rw [fetches, Progress.cache] at requesting_eq
  have consistent : requesting.Consistent := by
    rw [requesting_eq]
    exact JwksCache.applyAll_consistent _ seasoned.consistent
  have room : UnorderedMap.size (groupSigningKeysByKid keys) ≤ requesting.maxEntries.1 := by
    rw [requesting_eq, (JwksCache.applyAll_bounds _ seasoned.consistent).2]
    exact kids_le
  have begun := beginValidation_begun backend call cache
  rw [fetches] at begun
  -- Either way the verdict is right, and the entry settles the token.
  have decided : parked.call = call ∧ HeaderAdmitted backend call parked.parsed ∧
      outcome.verdict = verdict ∧
        ∃ hit, outcome.cache.findHit parked.call.jwksUri parked.parsed.kid = some hit ∧
          Settles backend parked hit.keys verdict := by
    cases begun with
    | refreshing parsed hit cachedResult admitted found calls _ _ granted =>
        obtain ⟨reserved, -, holds⟩ := seasoned.reserved found calls granted cachedResult
        refine ⟨rfl, admitted, ?_⟩
        rw [outcome_eq]
        exact holds.finishRefresh_settles cachedResult order consistent admitted.kid_ne
          admitted.printable read settles room
    | cold parsed admitted absent =>
        refine ⟨rfl, admitted, ?_⟩
        rw [outcome_eq]
        exact finishCold_settles order consistent
          (by rw [JwksCache.findHit, JwksCache.hits_recordJwksFetch]; exact absent)
          admitted.printable read settles room
  obtain ⟨rfl, admitted, verdict_eq, hit, found, entrySettles⟩ := decided
  refine ⟨verdict_eq, ?_⟩
  rw [beginValidation_of_cached admitted found entrySettles.not_callsForRefresh,
    entrySettles.verifyWithCachedKeys_eq.2]

/-- In every chronological run of calls, a call that fetches a document with no more kids
than the cache has room for, and with a key that signed the token, ends with the verdict
under that key, however many keys of the kid there are and in whatever order.  The same
call again gets the same verdict without a request. -/
theorem validateToken_rotates
    (backend : Backend)
    (minRefreshS : Int)
    (maxEntries : Nat)
    {presentations : List Presentation}
    {next : Presentation}
    {document : Response}
    {parked : Parked}
    {requesting : JwksCache}
    {k : Jwk}
    (chronological : Chronological (presentations ++ [next]))
    (fetches : beginValidation backend next.call
      (presentAll backend minRefreshS maxEntries presentations) =
        .fetching parked requesting)
    (answered : next.response = some document)
    (isOk : document.statusCode = 200)
    (kids_le : UnorderedMap.size
      (groupSigningKeysByKid (parseJwksJson backend document.body)) ≤
        (entryLimit maxEntries).1)
    (signed : SignedBy backend (parseJwksJson backend document.body) next.call
      parked.parsed k)
    (agreed : ∀ other, SignedBy backend (parseJwksJson backend document.body) next.call
      parked.parsed other →
        verifyJwt backend next.call.token other next.call.opts =
          verifyJwt backend next.call.token k next.call.opts) :
    let before := presentAll backend minRefreshS maxEntries presentations
    let outcome := validateToken backend (answering next.response) next.order next.call before
    outcome.verdict = verifyJwt backend next.call.token k next.call.opts ∧
      ∃ again, beginValidation backend next.call outcome.cache = .finished again ∧
        again.verdict = outcome.verdict := by
  intro before outcome
  have seasoned := run_seasoned backend minRefreshS maxEntries chronological
  have isCall : parked.call = next.call :=
    ((beginValidation_spec backend next.call _).2 _ _ fetches).call_eq
  have read : readResponse backend next.response =
      .keys (parseJwksJson backend document.body) := by
    rw [answered]
    exact readResponse_eq_keys isOk (List.ne_nil_of_mem signed.listed)
  rw [← isCall] at signed agreed
  have settles := signed.settles agreed
  rw [← maxEntries_presentAll backend minRefreshS maxEntries presentations] at kids_le
  obtain ⟨verdict_eq, again⟩ := seasoned.rotates next.order fetches read settles kids_le
  rw [isCall] at verdict_eq again
  exact ⟨verdict_eq, _, again, verdict_eq.symm⟩

/-- A token of the sixth key finds all six. -/
def rotatedTwice : Presentation where
  call := sampleCall "by-6" 1400
  response := sampleResponse "six"
  order := .stored

theorem rotatedBackend_faultless (token : String) (config : VerifierConfig) :
    rotatedBackend.verify config token = .ok ∨
      rotatedBackend.verify config token = .signatureError := by
  simp only [rotatedBackend]
  split
  · exact .inl rfl
  · exact .inr rfl

theorem validateToken_rotates_sample :
    let before := presentAll rotatedBackend 300 1000 [rotatedStart]
    let outcome := validateToken rotatedBackend (answering rotatedTwice.response)
      rotatedTwice.order rotatedTwice.call before
    outcome.verdict = .ok ∧
      ∃ again, beginValidation rotatedBackend rotatedTwice.call outcome.cache =
        .finished again ∧ again.verdict = outcome.verdict := by
  have signed : SignedBy rotatedBackend (parseJwksJson rotatedBackend "six")
      rotatedTwice.call { alg := "EdDSA", kid := "a" }
      { kid := "a", kty := "OKP", crv := "Ed25519", x := "Bg" } :=
    ⟨rfl, by decide, rfl, by decide, by decide⟩
  have accepted : verifyJwt rotatedBackend rotatedTwice.call.token
      { kid := "a", kty := "OKP", crv := "Ed25519", x := "Bg" } rotatedTwice.call.opts =
        .ok := by decide
  rw [← accepted]
  refine validateToken_rotates rotatedBackend 300 1000 (by decide) rfl rfl rfl (by decide)
    signed fun other otherSigned => ?_
  rw [accepted]
  exact verifyJwt_ok_of_signature (rotatedBackend_faultless _) otherSigned.signature

end Validator
end QuackOauth
