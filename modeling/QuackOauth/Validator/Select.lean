import QuackOauth.Jwks.Cache
import QuackOauth.Jwt.Verify

/-!
# Selecting keys and verifying against several

The part of the validator that touches no cache: grouping and screening the keys of
a document, and trying a token against a list of keys.
-/

namespace QuackOauth
namespace Validator

open Lib Jwks Jwt

/-- A verdict that shows the signature to be the candidate's. -/
def signatureMatchesCandidate (res : VerifyResult) : Bool :=
  res = .ok || res = .expired || res = .notYetValid ||
    res = .wrongIssuer || res = .wrongAudience

/-- A key for signing use. -/
def isSigningKey (k : Jwk) : Bool :=
  k.use = "" || k.use = "sig"

/-- A key that the token's header may mean. -/
def jwkMatchesTokenHeader (k : Jwk) (tokenAlg : String) : Bool :=
  isSigningKey k && (k.alg = "" || k.alg = tokenAlg)

/-- A verdict that calls for a refresh of a cached key. -/
def isCachedKeyUnusable (res : VerifyResult) : Bool :=
  res = .invalidSignature || res = .unusableKey

/-- The loop of `verifyWithCachedKeys` with its three flags. -/
def verifyWithCachedKeysLoop
    (backend : Backend)
    (token : String)
    (opts : VerifyOptions) :
    List Jwk → Bool → Bool → VerifyResult → VerifyResult
  | [], allUnsupported, sawInvalidSig, fallbackFailure =>
      if sawInvalidSig then .invalidSignature
      else if allUnsupported then .unsupportedKeyType
      else fallbackFailure
  | k :: rest, allUnsupported, sawInvalidSig, fallbackFailure =>
      let res := verifyJwt backend token k opts
      if signatureMatchesCandidate res then res
      else if res = .invalidSignature then
        verifyWithCachedKeysLoop backend token opts rest allUnsupported true fallbackFailure
      else if res ≠ .unsupportedKeyType then
        verifyWithCachedKeysLoop backend token opts rest false sawInvalidSig res
      else
        verifyWithCachedKeysLoop backend token opts rest allUnsupported sawInvalidSig
          fallbackFailure

/-- The verdict under the first key that verifies, or a summary of the failures. -/
def verifyWithCachedKeys
    (backend : Backend)
    (token : String)
    (keys : List Jwk)
    (opts : VerifyOptions) : VerifyResult :=
  if keys = [] then .unknownKid
  else verifyWithCachedKeysLoop backend token opts keys true false .invalidSignature

/-- The keys that the token's header may mean. -/
def matchingKeys (keys : List Jwk) (alg : String) : List Jwk :=
  keys.filter fun k => jwkMatchesTokenHeader k alg

/-- The verdict under the cached keys that the header may mean. -/
def verifyAgainstCachedKid
    (backend : Backend)
    (token alg : String)
    (cachedKeys : List Jwk)
    (opts : VerifyOptions) : VerifyResult :=
  let matching := matchingKeys cachedKeys alg
  if matching = [] then .noMatchingKey
  else verifyWithCachedKeys backend token matching opts

/-- Append a key to its kid's list. -/
def addToGroup
    (keysByKid : UnorderedMap String (List Jwk))
    (k : Jwk) : UnorderedMap String (List Jwk) :=
  keysByKid.insert k.kid ((keysByKid.lookup k.kid).getD [] ++ [k])

/-- The signing keys of a document by kid, in document order. -/
def groupSigningKeysByKid (keys : List Jwk) : UnorderedMap String (List Jwk) :=
  (keys.filter isSigningKey).foldl addToGroup ∅

/-- The usable keys, the first of each material. -/
def screenUsableKeys (backend : Backend) (rawKeys : List Jwk) : List Jwk :=
  rawKeys.foldl
    (fun valid cand =>
      if isUsableSigningKey backend cand && !holdsMaterial valid cand then
        valid ++ [cand]
      else valid) []

/-- The verdict under the first candidate whose signature matches. -/
def selectAndVerify
    (backend : Backend)
    (token tokenAlg : String)
    (opts : VerifyOptions) : List Jwk → Option VerifyResult
  | [] => none
  | cand :: rest =>
      if jwkMatchesTokenHeader cand tokenAlg &&
          signatureMatchesCandidate (verifyJwt backend token cand opts) then
        some (verifyJwt backend token cand opts)
      else selectAndVerify backend token tokenAlg opts rest

/-- Exchange the first element with the one at an index. -/
def swapFront (candidates : List Jwk) (index : Nat) : List Jwk :=
  match candidates[0]?, candidates[index]? with
  | some front, some other => (candidates.set 0 other).set index front
  | _, _ => candidates

/-- Index and verdict of the first candidate, from an index on, that verifies. -/
def firstVerified
    (backend : Backend)
    (token tokenAlg : String)
    (opts : VerifyOptions) : List Jwk → Nat → Option (Nat × VerifyResult)
  | [], _ => none
  | cand :: rest, index =>
      match (selectAndVerify backend token tokenAlg opts [cand]).filter
          signatureMatchesCandidate with
      | some res => some (index, res)
      | none => firstVerified backend token tokenAlg opts rest (index + 1)

/-- Move the candidate that verifies to the front, so that trimming keeps it.  A
single candidate is not tried. -/
def prioritizeMatchingKey
    (backend : Backend)
    (candidates : List Jwk)
    (token tokenAlg : String)
    (opts : VerifyOptions) : List Jwk × Option VerifyResult :=
  if candidates.length ≤ 1 then (candidates, none)
  else
    match firstVerified backend token tokenAlg opts candidates 0 with
    | none => (candidates, none)
    | some (index, res) => (swapFront candidates index, some res)

/-- Put new key material in front when the candidates exceed the limit per kid. -/
def prioritizeNewKeys (candidates existingKeys : List Jwk) : List Jwk :=
  if candidates.length ≤ kMaxKeysPerKid ∨ existingKeys = [] then candidates
  else
    let isOld (k : Jwk) := existingKeys.any fun old => sameKeyMaterial k old
    candidates.filter (fun k => !isOld k) ++ candidates.filter isOld

/-! ## Accepting needs a key -/

/-- A signature matches a key of a list that the header may mean. -/
def AcceptedBy
    (backend : Backend)
    (token alg : String)
    (opts : VerifyOptions)
    (verdict : VerifyResult)
    (k : Jwk) : Prop :=
  jwkMatchesTokenHeader k alg = true ∧ verifyJwt backend token k opts = verdict

variable {backend : Backend} {token alg : String} {opts : VerifyOptions}

theorem verifyWithCachedKeysLoop_ok
    {keys : List Jwk}
    {allUnsupported sawInvalidSig : Bool}
    {fallbackFailure : VerifyResult}
    (fallbackRejects : fallbackFailure ≠ .ok)
    (accepts : verifyWithCachedKeysLoop backend token opts keys allUnsupported
      sawInvalidSig fallbackFailure = .ok) :
    ∃ k ∈ keys, verifyJwt backend token k opts = .ok := by
  induction keys generalizing allUnsupported sawInvalidSig fallbackFailure with
  | nil =>
      unfold verifyWithCachedKeysLoop at accepts
      split at accepts
      · cases accepts
      · split at accepts
        · cases accepts
        · exact absurd accepts fallbackRejects
  | cons k rest inductionHypothesis =>
      unfold verifyWithCachedKeysLoop at accepts
      dsimp only at accepts
      have weaken : (∃ other ∈ rest, verifyJwt backend token other opts = .ok) →
          ∃ other ∈ k :: rest, verifyJwt backend token other opts = .ok :=
        fun ⟨other, member, verified⟩ => ⟨other, List.mem_cons_of_mem _ member, verified⟩
      split at accepts
      · exact ⟨k, List.mem_cons_self, accepts⟩
      · next noMatch =>
          have rejected : verifyJwt backend token k opts ≠ .ok := by
            intro verified
            simp [verified, signatureMatchesCandidate] at noMatch
          split at accepts
          · exact weaken (inductionHypothesis fallbackRejects accepts)
          · split at accepts
            · exact weaken (inductionHypothesis rejected accepts)
            · exact weaken (inductionHypothesis fallbackRejects accepts)

theorem verifyWithCachedKeys_ok
    {keys : List Jwk}
    (accepts : verifyWithCachedKeys backend token keys opts = .ok) :
    ∃ k ∈ keys, verifyJwt backend token k opts = .ok := by
  unfold verifyWithCachedKeys at accepts
  split at accepts
  · cases accepts
  · exact verifyWithCachedKeysLoop_ok (by decide) accepts

/-- If a signature matches one of the keys, it is such a key that decides. -/
theorem verifyWithCachedKeysLoop_of_signature
    {candidates : List Jwk}
    (signed : ∃ k ∈ candidates,
      signatureMatchesCandidate (verifyJwt backend token k opts) = true)
    (allUnsupported sawInvalidSig : Bool)
    (fallbackFailure : VerifyResult) :
    ∃ k ∈ candidates, signatureMatchesCandidate (verifyJwt backend token k opts) = true ∧
      verifyWithCachedKeysLoop backend token opts candidates allUnsupported sawInvalidSig
        fallbackFailure = verifyJwt backend token k opts := by
  induction candidates generalizing allUnsupported sawInvalidSig fallbackFailure with
  | nil =>
      obtain ⟨k, impossible, -⟩ := signed
      cases impossible
  | cons candidate rest inductionHypothesis =>
      rw [verifyWithCachedKeysLoop]
      split
      · next isMatch => exact ⟨candidate, List.mem_cons_self, isMatch, rfl⟩
      · next noMatch =>
          have later : ∃ k ∈ rest,
              signatureMatchesCandidate (verifyJwt backend token k opts) = true := by
            obtain ⟨k, member, isMatch⟩ := signed
            rcases List.mem_cons.mp member with rfl | inRest
            · exact absurd isMatch noMatch
            · exact ⟨k, inRest, isMatch⟩
          have decided := inductionHypothesis later
          split
          · obtain ⟨k, member, isMatch, verdict⟩ := decided allUnsupported true fallbackFailure
            exact ⟨k, List.mem_cons_of_mem _ member, isMatch, verdict⟩
          · split
            · obtain ⟨k, member, isMatch, verdict⟩ := decided false sawInvalidSig
                (verifyJwt backend token candidate opts)
              exact ⟨k, List.mem_cons_of_mem _ member, isMatch, verdict⟩
            · obtain ⟨k, member, isMatch, verdict⟩ := decided allUnsupported sawInvalidSig
                fallbackFailure
              exact ⟨k, List.mem_cons_of_mem _ member, isMatch, verdict⟩

theorem mem_matchingKeys
    {keys : List Jwk}
    {k : Jwk} :
    k ∈ matchingKeys keys alg ↔ k ∈ keys ∧ jwkMatchesTokenHeader k alg = true := by
  simp [matchingKeys]

theorem matchingKeys_ne_nil_iff {keys : List Jwk} :
    matchingKeys keys alg ≠ [] ↔ ∃ k ∈ keys, jwkMatchesTokenHeader k alg = true := by
  constructor
  · intro nonempty
    obtain ⟨k, member⟩ := List.exists_mem_of_ne_nil _ nonempty
    exact ⟨k, mem_matchingKeys.mp member⟩
  · rintro ⟨k, member⟩
    exact List.ne_nil_of_mem (mem_matchingKeys.mpr member)

/-- If a key that the header may mean has signed the token, the verdict under all such keys
is that under one that has. -/
theorem verifyWithCachedKeys_matching_of_signature
    {keys : List Jwk}
    (signed : ∃ k ∈ keys, jwkMatchesTokenHeader k alg = true ∧
      signatureMatchesCandidate (verifyJwt backend token k opts) = true) :
    matchingKeys keys alg ≠ [] ∧ ∃ k ∈ keys, jwkMatchesTokenHeader k alg = true ∧
      signatureMatchesCandidate (verifyJwt backend token k opts) = true ∧
      verifyWithCachedKeys backend token (matchingKeys keys alg) opts =
        verifyJwt backend token k opts := by
  obtain ⟨k, member, matching, signature⟩ := signed
  have nonempty : matchingKeys keys alg ≠ [] :=
    matchingKeys_ne_nil_iff.mpr ⟨k, member, matching⟩
  have candidate := mem_matchingKeys.mpr ⟨member, matching⟩
  obtain ⟨decider, decides, deciderSignature, verdict_eq⟩ :=
    verifyWithCachedKeysLoop_of_signature ⟨k, candidate, signature⟩ true false
      .invalidSignature
  obtain ⟨deciderMember, deciderMatching⟩ := mem_matchingKeys.mp decides
  refine ⟨nonempty, decider, deciderMember, deciderMatching, deciderSignature, ?_⟩
  rw [verifyWithCachedKeys, if_neg nonempty, verdict_eq]

/-- Accepting a token against matching keys needs one of the keys. -/
theorem verifyWithCachedKeys_matching_ok
    {keys : List Jwk}
    (accepts : verifyWithCachedKeys backend token (matchingKeys keys alg) opts = .ok) :
    ∃ k ∈ keys, AcceptedBy backend token alg opts .ok k := by
  obtain ⟨k, member, verified⟩ := verifyWithCachedKeys_ok accepts
  obtain ⟨stored, matching⟩ := mem_matchingKeys.mp member
  exact ⟨k, stored, matching, verified⟩

theorem verifyAgainstCachedKid_ok
    {keys : List Jwk}
    (accepts : verifyAgainstCachedKid backend token alg keys opts = .ok) :
    ∃ k ∈ keys, AcceptedBy backend token alg opts .ok k := by
  unfold verifyAgainstCachedKid at accepts
  dsimp only at accepts
  split at accepts
  · cases accepts
  · exact verifyWithCachedKeys_matching_ok accepts

theorem selectAndVerify_some
    {candidates : List Jwk}
    {verdict : VerifyResult}
    (selected : selectAndVerify backend token alg opts candidates = some verdict) :
    ∃ k ∈ candidates, AcceptedBy backend token alg opts verdict k := by
  induction candidates with
  | nil => cases selected
  | cons cand rest inductionHypothesis =>
      unfold selectAndVerify at selected
      split at selected
      · next matching =>
          have matching := (Bool.and_eq_true _ _ ▸ matching).1
          cases selected
          exact ⟨cand, List.mem_cons_self, matching, rfl⟩
      · obtain ⟨k, member, accepted⟩ := inductionHypothesis selected
        exact ⟨k, List.mem_cons_of_mem _ member, accepted⟩

/-- The candidate found stands at its index, its verdict shows the signature to be its
own, and the header may mean it. -/
theorem firstVerified_some
    {candidates : List Jwk}
    {start index : Nat}
    {verdict : VerifyResult}
    (found : firstVerified backend token alg opts candidates start =
      some (index, verdict)) :
    start ≤ index ∧ signatureMatchesCandidate verdict = true ∧
      ∃ k, candidates[index - start]? = some k ∧
        AcceptedBy backend token alg opts verdict k := by
  induction candidates generalizing start with
  | nil => cases found
  | cons cand rest inductionHypothesis =>
      unfold firstVerified at found
      split at found
      · next res selected =>
          cases found
          obtain ⟨selected, signed⟩ := Option.filter_eq_some_iff.mp selected
          obtain ⟨k, member, accepted⟩ := selectAndVerify_some selected
          cases List.mem_singleton.mp member
          exact ⟨le_refl _, signed, cand, by simp, accepted⟩
      · obtain ⟨later, signed, k, located, accepted⟩ := inductionHypothesis found
        refine ⟨by omega, signed, k, ?_, accepted⟩
        have position : index - start = (index - (start + 1)) + 1 := by omega
        rw [position, List.getElem?_cons_succ]
        exact located

theorem swapFront_perm (candidates : List Jwk) (index : Nat) :
    (swapFront candidates index).Perm candidates := by
  unfold swapFront
  split
  · next front other atFront atIndex =>
      cases candidates with
      | nil => cases atFront
      | cons head rest =>
          cases atFront
          cases index with
          | zero =>
              cases atIndex
              exact List.Perm.refl _
          | succ index =>
              rw [List.getElem?_cons_succ] at atIndex
              obtain ⟨inBounds, located⟩ := List.getElem?_eq_some_iff.mp atIndex
              subst located
              have front : 0 < (front :: rest).length := Nat.zero_lt_succ _
              exact List.set_set_perm front (Nat.succ_lt_succ inBounds)
  · exact List.Perm.refl _

/-- The candidate at the index is in front after the exchange. -/
theorem head?_swapFront
    {candidates : List Jwk}
    {index : Nat}
    {k : Jwk}
    (located : candidates[index]? = some k) :
    (swapFront candidates index).head? = some k := by
  cases candidates with
  | nil => cases located
  | cons head rest =>
      unfold swapFront
      rw [located]
      cases index with
      | zero =>
          cases located
          rfl
      | succ index => rfl

/-- A prioritised key stands in front. -/
theorem prioritizeMatchingKey_some
    {candidates : List Jwk}
    {verdict : VerifyResult}
    (verified : (prioritizeMatchingKey backend candidates token alg opts).2 =
      some verdict) :
    ∃ k, (prioritizeMatchingKey backend candidates token alg opts).1.head? = some k ∧
      AcceptedBy backend token alg opts verdict k := by
  unfold prioritizeMatchingKey at verified ⊢
  split at verified
  · cases verified
  · next several =>
      split at verified
      · cases verified
      · next index res found =>
          cases verified
          obtain ⟨-, -, k, located, accepted⟩ := firstVerified_some found
          rw [if_neg several]
          exact ⟨k, head?_swapFront located, accepted⟩

theorem prioritizeMatchingKey_perm
    (backend : Backend)
    (candidates : List Jwk)
    (token alg : String)
    (opts : VerifyOptions) :
    (prioritizeMatchingKey backend candidates token alg opts).1.Perm candidates := by
  unfold prioritizeMatchingKey
  split
  · exact List.Perm.refl _
  · split
    · exact List.Perm.refl _
    · exact swapFront_perm _ _

theorem prioritizeNewKeys_subset (candidates existingKeys : List Jwk) :
    prioritizeNewKeys candidates existingKeys ⊆ candidates := by
  unfold prioritizeNewKeys
  split
  · exact List.Subset.refl _
  · exact List.append_subset.mpr ⟨List.filter_subset_self _, List.filter_subset_self _⟩

/-! ## What grouping and screening keep -/

theorem lookup_addToGroup
    (keysByKid : UnorderedMap String (List Jwk))
    (k : Jwk)
    (kid : String) :
    ((addToGroup keysByKid k).lookup kid).getD [] =
      (keysByKid.lookup kid).getD [] ++ if k.kid = kid then [k] else [] := by
  unfold addToGroup
  rw [UnorderedMap.lookup_insert_eq_ite]
  by_cases sameKid : kid = k.kid
  · subst sameKid
    simp
  · rw [if_neg sameKid, if_neg (Ne.symm sameKid), List.append_nil]

/-- The group of a kid is the document's signing keys of that kid. -/
theorem lookup_groupSigningKeysByKid (keys : List Jwk) (kid : String) :
    ((groupSigningKeysByKid keys).lookup kid).getD [] =
      (keys.filter isSigningKey).filter fun k => k.kid = kid := by
  have grouped : ∀ (rest : List Jwk) (keysByKid : UnorderedMap String (List Jwk)),
      ((rest.foldl addToGroup keysByKid).lookup kid).getD [] =
        (keysByKid.lookup kid).getD [] ++ rest.filter fun k => k.kid = kid := by
    intro rest
    induction rest with
    | nil => simp
    | cons k rest inductionHypothesis =>
        intro keysByKid
        rw [List.foldl_cons, inductionHypothesis, lookup_addToGroup]
        by_cases sameKid : k.kid = kid <;> simp [sameKid]
  rw [groupSigningKeysByKid, grouped]
  rfl

/-- Screening keeps usable keys only. -/
theorem mem_of_mem_screenUsableKeys
    {rawKeys : List Jwk}
    {k : Jwk}
    (member : k ∈ screenUsableKeys backend rawKeys) :
    k ∈ rawKeys ∧ isUsableSigningKey backend k = true := by
  have screened : ∀ (rest valid : List Jwk),
      k ∈ rest.foldl
        (fun valid cand =>
          if isUsableSigningKey backend cand && !holdsMaterial valid cand then
            valid ++ [cand]
          else valid) valid →
      k ∈ valid ∨ (k ∈ rest ∧ isUsableSigningKey backend k = true) := by
    intro rest
    induction rest with
    | nil => exact fun valid member => .inl member
    | cons cand rest inductionHypothesis =>
        intro valid member
        rw [List.foldl_cons] at member
        rcases inductionHypothesis _ member with old | ⟨later, usable⟩
        · split at old
          · next passes =>
              rcases List.mem_append.mp old with old | added
              · exact .inl old
              · cases List.mem_singleton.mp added
                have usable := (Bool.and_eq_true _ _ ▸ passes).1
                exact .inr ⟨List.mem_cons_self, usable⟩
          · exact .inl old
        · exact .inr ⟨List.mem_cons_of_mem _ later, usable⟩
  rcases screened rawKeys [] member with none | kept
  · cases none
  · exact kept

end Validator
end QuackOauth
