import QuackOauth.Validator.Refresh

/-!
# What the reason of a refresh tells

A call that refreshes a cached kid reports why the refresh ended as it did.  The reason is
computed from all candidates, before they are cut off at the limit per kid and before the
siblings of the kid are ingested; it is still the truth about the entry that the call
leaves.
-/

namespace QuackOauth
namespace Validator

open Lib Jwks Jwt Distinct

/-- A list has material that another one lacks. -/
def Gains (old new : List Jwk) : Prop :=
  ∃ k ∈ new, holdsMaterial old k = false

instance (old new : List Jwk) : Decidable (Gains old new) :=
  inferInstanceAs (Decidable (∃ k ∈ new, holdsMaterial old k = false))

/-- The reasons of a refresh that came to nothing. -/
def isIdle : RefreshReason → Bool
  | .kidAbsent => true
  | .parseFailed => true
  | .fetchFailed => true
  | .throttled => true
  | .budgetThrottled => true
  | _ => false

/-- Whether a call commits a refresh. -/
def commitsRefresh
    (backend : Backend)
    (response : Option Response)
    (call : Call)
    (cache : JwksCache) : Bool :=
  match beginValidation backend call cache with
  | .finished _ => false
  | .fetching parked requesting =>
      match parked.route with
      | .cold => false
      | .refresh reservationId _ =>
          (refreshCommits backend parked reservationId response requesting).isSome

/-- What the reason of a refresh says about the keys of the entry before and about the
entry after. -/
structure ReasonTells
    (reason : RefreshReason)
    (committed : Bool)
    (old : List Jwk)
    (after : Option Entry) : Prop where
  rotated : reason = .rotated ↔
    committed = true ∧ ∃ entry, after = some entry ∧ Gains old entry.keys
  revoked : reason = .revoked ↔
    committed = true ∧ ∃ entry, after = some entry ∧
      ¬Gains old entry.keys ∧ Gains entry.keys old
  noRotation : reason = .noRotation ↔
    committed = true ∧ ∃ entry, after = some entry ∧
      ¬Gains old entry.keys ∧ ¬Gains entry.keys old
  kidEvicted : reason = .kidEvicted ↔ after = none
  unchanged : isIdle reason = true → ∃ entry, after = some entry ∧ entry.keys = old
  exhaustive : reason = .rotated ∨ reason = .revoked ∨ reason = .noRotation ∨
    reason = .kidEvicted ∨ isIdle reason = true

variable {backend : Backend} {parked : Parked} {reservationId : Nat} {hit entry : Entry}
variable {cache : JwksCache} {keys old : List Jwk} {reason : RefreshReason}
variable {after : Option Entry}

/-! ## The ways a refresh ends -/

/-- An entry that kept its keys goes with an idle reason. -/
theorem reasonTells_of_kept
    (isIdle_reason : isIdle reason = true)
    (stored : after = some entry)
    (keys_eq : entry.keys = old) :
    ReasonTells reason false old after := by
  subst stored
  have notOther : reason ≠ .rotated ∧ reason ≠ .revoked ∧ reason ≠ .noRotation ∧
      reason ≠ .kidEvicted := by
    refine ⟨?_, ?_, ?_, ?_⟩ <;>
      · rintro rfl
        cases isIdle_reason
  obtain ⟨notRotated, notRevoked, notNoRotation, notEvicted⟩ := notOther
  exact
    { rotated := by simp [notRotated]
      revoked := by simp [notRevoked]
      noRotation := by simp [notNoRotation]
      kidEvicted := by simp [notEvicted]
      unchanged := fun _ => ⟨entry, rfl, keys_eq⟩
      exhaustive := .inr (.inr (.inr (.inr isIdle_reason))) }

/-- An entry that is gone goes with its own reason. -/
theorem reasonTells_of_evicted : ReasonTells .kidEvicted false old none where
  rotated := by simp
  revoked := by simp
  noRotation := by simp
  kidEvicted := by simp
  unchanged := by simp [isIdle]
  exhaustive := by simp

/-- An entry that was committed goes with the reason that compares its keys. -/
theorem reasonTells_of_committed
    (stored : after = some entry)
    (compared : reason =
      if Gains old entry.keys then .rotated
      else if Gains entry.keys old then .revoked
      else .noRotation) :
    ReasonTells reason true old after := by
  subst stored compared
  by_cases gains : Gains old entry.keys
  · constructor <;> simp [gains, isIdle]
  · by_cases loses : Gains entry.keys old
    · constructor <;> simp [gains, loses, isIdle]
    · constructor <;> simp [gains, loses, isIdle]

/-! ## From the candidates to the entry -/

/-- Cutting the candidates off loses material only if new material is kept. -/
theorem gains_take_commitCandidates
    (nonempty : old ≠ [])
    (length_le : old.length ≤ kMaxKeysPerKid)
    (unverified : ∀ k ∈ old, verifiesToken backend parked k = false)
    (group : List Jwk) :
    (commitCandidates backend parked group old).1.take kMaxKeysPerKid =
        (commitCandidates backend parked group old).1 ∨
      Gains old (commitCandidates backend parked group old).1 ∧
        Gains old ((commitCandidates backend parked group old).1.take kMaxKeysPerKid) := by
  have perm := commitCandidates_perm backend parked group old
  have distinct : DistinctMaterial (commitCandidates backend parked group old).1 :=
    (distinctMaterial_screenUsableKeys group).perm sameKeyMaterial_sameness perm.symm
  rcases commitCandidates_front nonempty unverified group with few | known | new
  · exact .inl (List.take_of_length_le few)
  · left
    apply List.take_of_length_le
    exact Nat.le_trans (distinct.length_le sameKeyMaterial_sameness known) length_le
  · right
    obtain ⟨k, front, isNew⟩ := new
    have kept : k ∈ (commitCandidates backend parked group old).1.take kMaxKeysPerKid := by
      rw [← trimToCap_eq_take]
      exact mem_trimToCap_of_head? front
    exact ⟨⟨k, List.mem_of_mem_take kept, isNew⟩, ⟨k, kept, isNew⟩⟩

/-- The reason of a commit compares the cached keys with the candidates. -/
theorem commitAndAudit_reason
    {kid jwksUri : String}
    {candidates : List Jwk}
    {nowS : Int}
    (succeeds : (cache.commitRefresh kid reservationId candidates nowS jwksUri).1 = true) :
    (commitAndAudit kid reservationId candidates old nowS jwksUri cache).2.1.reasonEnum =
      if Gains old candidates then .rotated
      else if Gains candidates old then .revoked
      else .noRotation := by
  have hasNew : (candidates.any fun cand =>
      !old.any fun cached => sameKeyMaterial cand cached) = decide (Gains old candidates) := by
    rw [Bool.eq_iff_iff, decide_eq_true_iff]
    simp [any_sameKeyMaterial_eq, Gains]
  have hasRemoved : (old.any fun cached =>
      !candidates.any fun cand => sameKeyMaterial cand cached) =
        decide (Gains candidates old) := by
    rw [Bool.eq_iff_iff, decide_eq_true_iff]
    simp [Gains, holdsMaterial]
  unfold commitAndAudit
  simp only [succeeds, hasNew, hasRemoved, if_true, refreshEvent, decide_eq_true_eq]

/-- The reason of a commit compares the cached keys with those that replace them. -/
theorem Reserved.reason_eq
    (reserved : Reserved backend parked reservationId hit cache)
    {group : List Jwk}
    (usable : screenUsableKeys backend group ≠ []) :
    let candidates := (commitCandidates backend parked group hit.keys).1
    let event := (commitAndAudit parked.parsed.kid reservationId candidates hit.keys
      parked.call.opts.nowS parked.call.jwksUri cache).2.1
    event.reasonEnum =
      if Gains hit.keys (candidates.take kMaxKeysPerKid) then .rotated
      else if Gains (candidates.take kMaxKeysPerKid) hit.keys then .revoked
      else .noRotation := by
  intro candidates event
  have nonempty : candidates ≠ [] := by
    intro empty
    have perm := commitCandidates_perm backend parked group hit.keys
    change candidates.Perm _ at perm
    rw [empty] at perm
    exact usable perm.nil_eq.symm
  have reason : event.reasonEnum =
      if Gains hit.keys candidates then .rotated
      else if Gains candidates hit.keys then .revoked
      else .noRotation := commitAndAudit_reason (reserved.commitRefresh nonempty)
  rw [reason]
  rcases gains_take_commitCandidates reserved.stocked.nonempty reserved.stocked.length_le
    reserved.unverified group with kept | ⟨gains, gainsKept⟩
  · change candidates.take kMaxKeysPerKid = candidates at kept
    rw [kept]
  · rw [if_pos gains, if_pos gainsKept]

/-! ## One refresh -/

/-- An absence is counted; the second in a row costs the entry. -/
theorem Reserved.recordKidAbsent_tells
    (reserved : Reserved backend parked reservationId hit cache) :
    let recorded := cache.recordKidAbsent parked.parsed.kid reservationId
      parked.call.opts.nowS parked.call.jwksUri
    ReasonTells (if recorded.1 then .kidEvicted else .kidAbsent) false hit.keys
      (recorded.2.findHit parked.call.jwksUri parked.parsed.kid) := by
  intro recorded
  have awaited : ¬(reservationId ≠ 0 ∧ hit.currentReservationId ≠ reservationId) := by
    simp [reserved.awaited]
  have recorded_eq : recorded = cache.recordKidAbsent parked.parsed.kid reservationId
      parked.call.opts.nowS parked.call.jwksUri := rfl
  unfold JwksCache.recordKidAbsent at recorded_eq
  simp only [reserved.found, if_neg awaited] at recorded_eq
  split at recorded_eq
  · have gone : recorded.2.findHit parked.call.jwksUri parked.parsed.kid = none := by
      rw [recorded_eq]
      exact AList.lookup_erase _ _
    rw [gone, recorded_eq]
    exact reasonTells_of_evicted
  · rw [recorded_eq]
    exact reasonTells_of_kept rfl (AList.lookup_insert _) rfl

/-- The reason tells what became of the entry by the end of the commit attempt. -/
theorem Reserved.commitTargetKid_tells
    (reserved : Reserved backend parked reservationId hit cache)
    (keys : List Jwk) :
    ReasonTells
      (commitTargetKid backend parked reservationId (groupSigningKeysByKid keys)
        cache).2.1.reasonEnum
      (committedKeys backend parked reservationId (groupSigningKeysByKid keys) cache).isSome
      hit.keys
      ((commitTargetKid backend parked reservationId (groupSigningKeysByKid keys)
        cache).2.2.findHit parked.call.jwksUri parked.parsed.kid) := by
  unfold commitTargetKid committedKeys
  dsimp only
  cases grouped : (groupSigningKeysByKid keys).lookup parked.parsed.kid with
  | none =>
      -- The document does not list the kid.
      exact reserved.recordKidAbsent_tells
  | some group =>
      dsimp only
      split
      · exact reasonTells_of_kept rfl reserved.found rfl
      · next usable =>
          have live : (cache.lookup parked.parsed.kid parked.call.opts.nowS
              parked.call.jwksUri).keys = hit.keys := by
            rw [lookup_of_findHit reserved.found]
          have nonempty : (commitCandidates backend parked group hit.keys).1 ≠ [] := by
            intro empty
            have perm := commitCandidates_perm backend parked group hit.keys
            rw [empty] at perm
            exact usable perm.nil_eq.symm
          obtain ⟨entry, stored, keys_eq⟩ := reserved.findHit_commitRefresh nonempty
          rw [live, if_pos (reserved.commitRefresh nonempty)]
          refine reasonTells_of_committed stored ?_
          rw [keys_eq]
          exact reserved.reason_eq usable

/-- What follows the commit attempt leaves the entry alone. -/
theorem findHit_finishRefresh
    {response : Option Response}
    {cachedResult : VerifyResult}
    {order : IterationOrder String (List Jwk)}
    (read : readResponse backend response = .keys keys)
    (kid_ne : parked.parsed.kid ≠ "")
    (printable : '\n' ∉ parked.parsed.kid.toList)
    (fits : cache.Fits
      (refreshOperations backend parked reservationId response order cache)) :
    (finishRefresh backend parked reservationId cachedResult response order
        cache).cache.findHit parked.call.jwksUri parked.parsed.kid =
      (commitTargetKid backend parked reservationId (groupSigningKeysByKid keys)
        (cache.recordJwksFetchSuccess parked.call.opts.nowS
          parked.call.jwksUri)).2.2.findHit parked.call.jwksUri parked.parsed.kid := by
  have spares := siblingOperations_spare read kid_ne printable order parked.call.opts.nowS
    parked.call.jwksUri
  unfold refreshOperations at fits
  simp only [read] at fits
  obtain ⟨-, fits⟩ := fits
  obtain ⟨fits, -⟩ := (Machine.allSteps_append _).mp fits
  obtain ⟨-, fits⟩ := (Machine.allSteps_append _).mp fits
  unfold finishRefresh
  simp only [read]
  rw [ingestSiblingKeys_cache, commitTargetKid_cache]
  exact lookup_hits_applyAll_of_spares spares fits

/-- The reason of a refresh that nobody disturbs tells what became of the entry. -/
theorem Reserved.finishRefresh_tells
    (reserved : Reserved backend parked reservationId hit cache)
    {response : Option Response}
    {order : IterationOrder String (List Jwk)}
    (cachedResult : VerifyResult)
    (kid_ne : parked.parsed.kid ≠ "")
    (printable : '\n' ∉ parked.parsed.kid.toList)
    (fits : cache.Fits
      (refreshOperations backend parked reservationId response order cache)) :
    let outcome :=
      finishRefresh backend parked reservationId cachedResult response order cache
    ReasonTells outcome.refresh.reasonEnum
      (refreshCommits backend parked reservationId response cache).isSome hit.keys
      (outcome.cache.findHit parked.call.jwksUri parked.parsed.kid) := by
  intro outcome
  cases read : readResponse backend response with
  | failed =>
      simp only [outcome, finishRefresh, refreshCommits, read]
      exact reasonTells_of_kept rfl reserved.found rfl
  | noKeys =>
      simp only [outcome, finishRefresh, refreshCommits, read]
      exact reasonTells_of_kept rfl reserved.found rfl
  | keys keys =>
      have live := reserved.of_hits_eq (JwksCache.hits_recordJwksFetchSuccess
        parked.call.opts.nowS parked.call.jwksUri cache)
      have tells := live.commitTargetKid_tells keys
      have reason_eq : outcome.refresh.reasonEnum =
          (commitTargetKid backend parked reservationId (groupSigningKeysByKid keys)
            (cache.recordJwksFetchSuccess parked.call.opts.nowS
              parked.call.jwksUri)).2.1.reasonEnum := by
        simp only [outcome, finishRefresh, read]
      rw [reason_eq, findHit_finishRefresh read kid_ne printable fits]
      simp only [refreshCommits, read]
      exact tells

/-- What the reason of one call tells about the cache it finds. -/
theorem Seasoned.reasonTells
    {call : Call}
    {parsed : JwtParsed}
    {response : Option Response}
    {order : IterationOrder String (List Jwk)}
    (seasoned : Seasoned backend call.opts.nowS cache)
    (admitted : HeaderAdmitted backend call parsed)
    (found : cache.findHit call.jwksUri parsed.kid = some hit)
    (calls : callsForRefresh backend call parsed hit.keys = true)
    (fits : cache.Fits (callOperations backend response order call cache)) :
    let outcome := validateToken backend (answering response) order call cache
    ReasonTells outcome.refresh.reasonEnum (commitsRefresh backend response call cache)
      hit.keys (outcome.cache.findHit call.jwksUri parsed.kid) := by
  intro outcome
  obtain ⟨-, fits⟩ := (Machine.allSteps_append _).mp fits
  rw [← JwksCache.applyAll, ← beginValidation_cache] at fits
  have sameLastGood := beginValidation_sameLastGood backend call cache
  have begun := beginValidation_begun backend call cache
  generalize begins : beginValidation backend call cache = progress at *
  -- A call that sends no request leaves the keys of the entry as they are.
  have kept : ∀ {reason : RefreshReason}, isIdle reason = true →
      ReasonTells reason false hit.keys
        (progress.cache.findHit call.jwksUri parsed.kid) := by
    intro reason isIdle_reason
    have same := sameLastGood (cacheKey call.jwksUri parsed.kid)
    rw [show cache.hits.lookup (cacheKey call.jwksUri parsed.kid) = some hit from found,
      Option.map_some] at same
    obtain ⟨entry, stored, entry_eq⟩ := Option.map_eq_some_iff.mp same
    exact reasonTells_of_kept isIdle_reason stored (congrArg Prod.fst entry_eq)
  cases begun with
  | refused verdict rejects absent => cases (absent parsed admitted).symm.trans found
  | cached other otherHit alsoAdmitted otherFound notCalls =>
      cases admitted.unique alsoAdmitted
      cases found.symm.trans otherFound
      rw [notCalls] at calls
      cases calls
  | budgetThrottled other otherHit cachedResult alsoAdmitted =>
      cases admitted.unique alsoAdmitted
      simp only [outcome, validateToken, commitsRefresh, begins]
      exact kept rfl
  | reserveThrottled other otherHit cachedResult alsoAdmitted =>
      cases admitted.unique alsoAdmitted
      simp only [outcome, validateToken, commitsRefresh, begins]
      exact kept rfl
  | refreshing other otherHit cachedResult alsoAdmitted otherFound _ _ _ granted =>
      cases admitted.unique alsoAdmitted
      obtain ⟨reserved, keys_eq, holds⟩ :=
        seasoned.reserved found calls granted cachedResult
      have tells := holds.finishRefresh_tells cachedResult admitted.kid_ne admitted.printable fits
      rw [keys_eq] at tells
      simp only [outcome, validateToken, commitsRefresh, begins]
      exact tells
  | coldThrottled other isBudget reason alsoAdmitted absent =>
      cases admitted.unique alsoAdmitted
      cases absent.symm.trans found
  | cold other alsoAdmitted absent =>
      cases admitted.unique alsoAdmitted
      cases absent.symm.trans found

/-- In every chronological run of calls, the reason that a refreshing call reports tells
what became of the entry of its kid: it was committed and gained material, was committed
and lost some without gaining any, was committed with the same material, was evicted, or
kept its keys. -/
theorem validateToken_reasonTells
    (backend : Backend)
    (minRefreshS : Int)
    (maxEntries : Nat)
    {presentations : List Presentation}
    {next : Presentation}
    {parsed : JwtParsed}
    (chronological : Chronological (presentations ++ [next]))
    (admitted : HeaderAdmitted backend next.call parsed)
    (found : (presentAll backend minRefreshS maxEntries presentations).findHit
      next.call.jwksUri parsed.kid = some hit)
    (calls : callsForRefresh backend next.call parsed hit.keys = true)
    (fits : (presentAll backend minRefreshS maxEntries presentations).Fits
      (callOperations backend next.response next.order next.call
        (presentAll backend minRefreshS maxEntries presentations))) :
    let before := presentAll backend minRefreshS maxEntries presentations
    let outcome := validateToken backend (answering next.response) next.order next.call before
    ReasonTells outcome.refresh.reasonEnum
      (commitsRefresh backend next.response next.call before) hit.keys
      (outcome.cache.findHit next.call.jwksUri parsed.kid) := by
  intro before outcome
  have seasoned := run_seasoned backend minRefreshS maxEntries chronological
  exact seasoned.reasonTells admitted found calls fits

theorem validateToken_reasonTells_sample :
    let before := presentAll rotatedBackend 300 1000 [rotatedStart]
    let outcome := validateToken rotatedBackend (answering rotatedNext.response)
      rotatedNext.order rotatedNext.call before
    outcome.refresh.reasonEnum = .rotated ∧
      ReasonTells outcome.refresh.reasonEnum
        (commitsRefresh rotatedBackend rotatedNext.response rotatedNext.call before)
        (usableKeys rotatedBackend (parseJwksJson rotatedBackend "four") "a")
        (outcome.cache.findHit "https://idp.test/jwks" "a") := by
  have admitted : HeaderAdmitted rotatedBackend rotatedNext.call
      { alg := "EdDSA", kid := "a" } := ⟨rfl, by decide, by decide, by decide⟩
  have found : (presentAll rotatedBackend 300 1000 [rotatedStart]).findHit
      "https://idp.test/jwks" "a" = some {
        keys := usableKeys rotatedBackend (parseJwksJson rotatedBackend "four") "a"
        fetchedAtS := 1000
        lastRefreshAttemptS := 1000
        lruIt := 0 } := rfl
  exact ⟨by decide, validateToken_reasonTells rotatedBackend 300 1000 (by decide) admitted
    found (by decide) (by decide)⟩

end Validator
end QuackOauth
