import QuackOauth.Validator.LastGood
import QuackOauth.Validator.Retention
import QuackOauth.Validator.Sequential

/-!
# A refresh that nobody disturbs

A call that reserves a refresh, and whose response arrives before anyone else touches the
cache, finds its reservation still awaited, and commits.  No key that it finds verifies
the token, so a candidate that does verify it is new.
-/

namespace QuackOauth
namespace Validator

open Lib Jwks Jwt Distinct

/-- The entry that a call finds when the refresh it reserved is answered. -/
structure Reserved
    (backend : Backend)
    (parked : Parked)
    (reservationId : Nat)
    (hit : Entry)
    (cache : JwksCache) : Prop where
  found : cache.findHit parked.call.jwksUri parked.parsed.kid = some hit
  granted : reservationId ≠ 0
  awaited : hit.currentReservationId = reservationId
  past : hit.fetchedAtS ≤ parked.call.opts.nowS
  stocked : Stocked backend (cacheKey parked.call.jwksUri parked.parsed.kid) hit.keys
  unverified : ∀ k ∈ hit.keys, verifiesToken backend parked k = false

variable {backend : Backend} {parked : Parked} {reservationId : Nat} {hit : Entry}
variable {cache : JwksCache} {call : Call} {parsed : JwtParsed} {keys old usable : List Jwk}

/-! ## Reserving -/

theorem isCachedKeyUnusable_of_signature
    {verdict : VerifyResult}
    (isMatch : signatureMatchesCandidate verdict = true) :
    isCachedKeyUnusable verdict = false := by
  cases verdict <;> first | rfl | cases isMatch

/-- A refresh is due only if no cached key verifies the token. -/
theorem not_verifiesToken_of_callsForRefresh
    (calls : callsForRefresh backend parked.call parked.parsed keys = true)
    {k : Jwk}
    (member : k ∈ keys) :
    verifiesToken backend parked k = false := by
  rw [← Bool.not_eq_true]
  intro verifies
  obtain ⟨some, decisive, -, -, decides, verdict⟩ :=
    verifyWithCachedKeys_matching_of_signature
      ⟨k, member, (Bool.and_eq_true _ _).mp verifies⟩
  have usable := isCachedKeyUnusable_of_signature decides
  rw [← verdict] at usable
  simp [callsForRefresh, some, usable] at calls

/-- What a granted reservation leaves of the entry. -/
theorem findHit_tryReserveRefresh
    {kid jwksUri : String}
    {nowS : Int}
    (found : cache.findHit jwksUri kid = some hit)
    (granted : (cache.tryReserveRefresh kid nowS jwksUri).1 ≠ 0) :
    (cache.tryReserveRefresh kid nowS jwksUri).2.findHit jwksUri kid =
      some { hit with
        lastRefreshAttemptS := nowS
        currentReservationId := (cache.tryReserveRefresh kid nowS jwksUri).1 } := by
  have stored : (cache.grantReservation (cacheKey jwksUri kid) hit nowS).2.findHit jwksUri
      kid = some { hit with
        lastRefreshAttemptS := nowS
        currentReservationId := (cache.grantReservation (cacheKey jwksUri kid) hit nowS).1 } :=
    AList.lookup_insert _
  unfold JwksCache.tryReserveRefresh at granted ⊢
  simp only [found] at granted ⊢
  split
  · exact stored
  · next rewound => simp [rewound] at granted
  · next isForward =>
      simp only [isForward] at granted
      split
      · next tooSoon => simp [tooSoon] at granted
      · exact stored

/-- The reservation of a call holds when its request goes out. -/
theorem Seasoned.reserved
    (seasoned : Seasoned backend call.opts.nowS cache)
    (found : cache.findHit call.jwksUri parsed.kid = some hit)
    (calls : callsForRefresh backend call parsed hit.keys = true)
    (granted : (cache.tryReserveRefresh parsed.kid call.opts.nowS call.jwksUri).1 ≠ 0)
    (cachedResult : VerifyResult) :
    ∃ reserved, reserved.keys = hit.keys ∧
      Reserved backend
        { call, parsed
          route := .refresh
            (cache.tryReserveRefresh parsed.kid call.opts.nowS call.jwksUri).1 cachedResult }
        (cache.tryReserveRefresh parsed.kid call.opts.nowS call.jwksUri).1 reserved
        ((cache.tryReserveRefresh parsed.kid call.opts.nowS
          call.jwksUri).2.recordJwksFetch call.opts.nowS) := by
  refine ⟨{ hit with
      lastRefreshAttemptS := call.opts.nowS
      currentReservationId :=
        (cache.tryReserveRefresh parsed.kid call.opts.nowS call.jwksUri).1 },
    rfl, ?_, granted, rfl, seasoned.past _ hit found, seasoned.stocked _ hit found, ?_⟩
  · rw [JwksCache.findHit, JwksCache.hits_recordJwksFetch]
    exact findHit_tryReserveRefresh found granted
  · intro k member
    exact not_verifiesToken_of_callsForRefresh calls member

/-! ## The candidates -/

/-- A key of the material of a verifying one verifies as well. -/
theorem verifiesToken_eq_of_sameKeyMaterial
    {k other : Jwk}
    (same : sameKeyMaterial k other = true) :
    verifiesToken backend parked k = verifiesToken backend parked other := by
  unfold verifiesToken
  rw [jwkMatchesTokenHeader_eq_of_sameKeyMaterial same, verifyJwt_eq_of_sameKeyMaterial same]

theorem holdsMaterial_eq_false_of_verifies
    {k : Jwk}
    (unverified : ∀ k ∈ old, verifiesToken backend parked k = false)
    (verifies : verifiesToken backend parked k = true) :
    holdsMaterial old k = false := by
  rw [← Bool.not_eq_true]
  intro held
  obtain ⟨existing, member, same⟩ := holdsMaterial_iff.mp held
  have contrary := unverified existing member
  rw [verifiesToken_eq_of_sameKeyMaterial same, verifies] at contrary
  cases contrary

/-- The key that is moved to the front is the first that verifies. -/
theorem prioritizeMatchingKey_eq :
    prioritizeMatchingKey backend usable parked.call.token parked.parsed.alg
        parked.call.opts =
      if usable.length ≤ 1 then (usable, none)
      else
        match usable.findIdx? (verifiesToken backend parked) with
        | none => (usable, none)
        | some index =>
            (swapFront usable index, usable[index]?.map fun k =>
              verifyJwt backend parked.call.token k parked.call.opts) := by
  unfold prioritizeMatchingKey
  rw [firstVerified_eq]
  cases first : usable.findIdx? (verifiesToken backend parked) with
  | none => rfl
  | some index =>
      have inBounds := (List.findIdx?_eq_some_iff_findIdx_eq.mp first).1
      simp [List.getElem?_eq_getElem inBounds]

/-- If a document has new material, the first candidate is new, or all of them fit. -/
theorem commitCandidates_front
    (nonempty : old ≠ [])
    (unverified : ∀ k ∈ old, verifiesToken backend parked k = false)
    (group : List Jwk) :
    (commitCandidates backend parked group old).1.length ≤ kMaxKeysPerKid ∨
      (∀ k ∈ (commitCandidates backend parked group old).1, holdsMaterial old k = true) ∨
      ∃ k, (commitCandidates backend parked group old).1.head? = some k ∧
        holdsMaterial old k = false := by
  unfold commitCandidates
  dsimp only
  rw [prioritizeMatchingKey_eq]
  generalize screenUsableKeys backend group = usable
  split
  · next single =>
      left
      simp only [Option.isNone_none, if_true]
      rw [(prioritizeNewKeys_perm usable old).length_eq, kMaxKeysPerKid]
      omega
  · cases first : usable.findIdx? (verifiesToken backend parked) with
    | none =>
        simp only [Option.isNone_none, if_true]
        unfold prioritizeNewKeys
        split
        · next small => exact .inl (small.resolve_right nonempty)
        · right
          simp only [any_sameKeyMaterial_eq]
          cases news : usable.filter fun k => !holdsMaterial old k with
          | nil =>
              left
              intro k member
              exact (List.mem_filter.mp member).2
          | cons k rest =>
              right
              have member : k ∈ usable.filter fun k => !holdsMaterial old k := by
                rw [news]
                exact List.mem_cons_self
              exact ⟨k, rfl, by simpa using (List.mem_filter.mp member).2⟩
    | some index =>
        obtain ⟨inBounds, verifies⟩ := List.findIdx?_eq_some_iff_getElem.mp first
        right
        right
        have located := List.getElem?_eq_getElem inBounds
        simp only [located, Option.map_some, Option.isNone_some, Bool.false_eq_true, if_false]
        refine ⟨usable[index], head?_swapFront located, ?_⟩
        exact holdsMaterial_eq_false_of_verifies unverified verifies.1

/-! ## Committing -/

theorem Reserved.of_hits_eq
    {other : JwksCache}
    (reserved : Reserved backend parked reservationId hit cache)
    (hits_eq : other.hits = cache.hits) :
    Reserved backend parked reservationId hit other where
  found := by
    rw [JwksCache.findHit, hits_eq]
    exact reserved.found
  granted := reserved.granted
  awaited := reserved.awaited
  past := reserved.past
  stocked := reserved.stocked
  unverified := reserved.unverified

/-- A commit for the awaited reservation goes through. -/
theorem Reserved.commitRefresh
    (reserved : Reserved backend parked reservationId hit cache)
    {candidates : List Jwk}
    (nonempty : candidates ≠ []) :
    (cache.commitRefresh parked.parsed.kid reservationId candidates parked.call.opts.nowS
      parked.call.jwksUri).1 = true := by
  have forward : relateClock parked.call.opts.nowS hit.fetchedAtS = .forward :=
    if_pos reserved.past
  unfold JwksCache.commitRefresh
  rw [if_neg (not_or.mpr ⟨reserved.granted, nonempty⟩)]
  simp [reserved.found, reserved.awaited, forward]

/-- What is stored for the kid once its usable keys are committed. -/
theorem Reserved.findHit_commitRefresh
    (reserved : Reserved backend parked reservationId hit cache)
    {candidates : List Jwk}
    (nonempty : candidates ≠ []) :
    ∃ entry, (cache.commitRefresh parked.parsed.kid reservationId candidates
        parked.call.opts.nowS parked.call.jwksUri).2.findHit parked.call.jwksUri
          parked.parsed.kid = some entry ∧
      entry.keys = candidates.take kMaxKeysPerKid := by
  obtain ⟨entry, stored, keys_eq, -⟩ :=
    (JwksCache.commitRefresh_committed (reserved.commitRefresh nonempty)).stored
  exact ⟨entry, stored, keys_eq.trans (trimToCap_eq_take _)⟩

/-! ## A rotation -/

/-- The first four keys are fetched for a token of the first. -/
def rotatedStart : Presentation where
  call := sampleCall "by-1" 1000
  response := sampleResponse "four"
  order := .stored

/-- A token of the fifth key finds five of them. -/
def rotatedNext : Presentation where
  call := sampleCall "by-5" 1400
  response := sampleResponse "five"
  order := .stored

end Validator
end QuackOauth
