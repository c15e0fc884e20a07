import QuackOauth.Validator.Document
import QuackOauth.Validator.Soundness

/-!
# Which keys a refresh retains

A refresh commits the usable keys of its kid, as many as the limit per kid admits.  The
order decides which: new material comes first, except when a key of the document verifies
the token, which then changes places with the first key of the document.
-/

namespace QuackOauth
namespace Validator

open Lib Jwks Jwt Distinct

/-- A key verifies the token of a call. -/
def verifiesToken (backend : Backend) (parked : Parked) (k : Jwk) : Bool :=
  jwkMatchesTokenHeader k parked.parsed.alg &&
    signatureMatchesCandidate (verifyJwt backend parked.call.token k parked.call.opts)

/-- Of the keys of a document, those beyond the limit per kid are not new, once the first
that verifies the token has changed places with the very first. -/
def NewKeysInFront (old usable : List Jwk) (verifies : Jwk → Bool) : Prop :=
  ∀ index, usable.findIdx? verifies = some index →
    (∀ position k, usable[position]? = some k → kMaxKeysPerKid ≤ position →
      position ≠ index → holdsMaterial old k = true) ∧
    (kMaxKeysPerKid ≤ index → ∀ k, usable.head? = some k → holdsMaterial old k = true)

/-- All new material of a document is kept, if there is room for it. -/
def RetainsNew (old usable after : List Jwk) : Prop :=
  (newMaterial old usable).length ≤ kMaxKeysPerKid →
    ∀ k ∈ newMaterial old usable, k ∈ after

variable {backend : Backend} {parked : Parked} {old usable candidates : List Jwk}

/-! ## Finding the key that verifies -/

theorem selectAndVerify_singleton (k : Jwk) :
    (selectAndVerify backend parked.call.token parked.parsed.alg parked.call.opts
      [k]).filter signatureMatchesCandidate =
      if verifiesToken backend parked k then
        some (verifyJwt backend parked.call.token k parked.call.opts)
      else none := by
  rw [selectAndVerify, selectAndVerify, verifiesToken]
  split
  · next passes =>
      rw [Bool.and_eq_true] at passes
      simp [passes.2]
  · rfl

/-- The search for a key that verifies finds the first one. -/
theorem firstVerified_eq (start : Nat) :
    firstVerified backend parked.call.token parked.parsed.alg parked.call.opts candidates
        start =
      (candidates.findIdx? (verifiesToken backend parked)).bind fun index =>
        candidates[index]?.map fun k =>
          (start + index, verifyJwt backend parked.call.token k parked.call.opts) := by
  induction candidates generalizing start with
  | nil => rfl
  | cons cand rest inductionHypothesis =>
      rw [firstVerified, selectAndVerify_singleton, List.findIdx?_cons]
      by_cases verifies : verifiesToken backend parked cand = true
      · simp [verifies]
      · simp only [verifies, if_false, Bool.false_eq_true]
        rw [inductionHypothesis]
        cases rest.findIdx? (verifiesToken backend parked) with
        | none => rfl
        | some index => simp [Nat.add_assoc, Nat.add_comm 1]

/-- What stands where after the exchange. -/
theorem getElem?_swapFront
    {index : Nat}
    (inBounds : index < candidates.length)
    (position : Nat) :
    (swapFront candidates index)[position]? =
      if position = index then candidates[0]?
      else if position = 0 then candidates[index]?
      else candidates[position]? := by
  have nonempty : 0 < candidates.length := by omega
  unfold swapFront
  rw [List.getElem?_eq_getElem nonempty, List.getElem?_eq_getElem inBounds]
  dsimp only
  rw [List.getElem?_set, List.getElem?_set, List.length_set]
  by_cases atIndex : position = index
  · subst atIndex
    simp [inBounds]
  · by_cases atFront : position = 0
    · subst atFront
      simp [Ne.symm atIndex, nonempty, atIndex]
    · simp [Ne.symm atIndex, Ne.symm atFront, atIndex, atFront]

/-! ## What the cap leaves -/

theorem any_sameKeyMaterial_eq (old : List Jwk) (k : Jwk) :
    (old.any fun existing => sameKeyMaterial k existing) = holdsMaterial old k := by
  unfold holdsMaterial
  congr 1
  funext existing
  rw [Bool.eq_iff_iff]
  exact ⟨sameKeyMaterial_sameness.symm, sameKeyMaterial_sameness.symm⟩

/-- With new material in front, all of it is kept. -/
theorem retainsNew_prioritizeNewKeys (old usable : List Jwk) :
    RetainsNew old usable ((prioritizeNewKeys usable old).take kMaxKeysPerKid) := by
  intro few k member
  unfold prioritizeNewKeys
  split
  · next small =>
      have fits : usable.length ≤ kMaxKeysPerKid := by
        rcases small with fits | rfl
        · exact fits
        · have all : newMaterial [] usable = usable :=
            List.filter_eq_self.mpr fun _ _ => rfl
          rwa [all] at few
      rw [List.take_of_length_le fits]
      exact (mem_newcomers.mp member).1
  · simp only [any_sameKeyMaterial_eq]
    change k ∈ (newMaterial old usable ++ _).take kMaxKeysPerKid
    rw [List.take_append, List.take_of_length_le few]
    exact List.mem_append_left _ member

theorem mem_take_iff {k : Jwk} {count : Nat} :
    k ∈ candidates.take count ↔ ∃ position < count, candidates[position]? = some k := by
  rw [List.mem_iff_getElem?]
  constructor
  · rintro ⟨position, located⟩
    rw [List.getElem?_take] at located
    split at located
    · next inFront => exact ⟨position, inFront, located⟩
    · cases located
  · rintro ⟨position, inFront, located⟩
    exact ⟨position, by rw [List.getElem?_take, if_pos inFront, located]⟩

/-- A key behind a cut is not before it. -/
theorem notMem_take_of_getElem?
    {k : Jwk}
    {count position : Nat}
    (nodup : candidates.Nodup)
    (located : candidates[position]? = some k)
    (behind : count ≤ position) :
    k ∉ candidates.take count := by
  intro member
  obtain ⟨other, inFront, otherLocated⟩ := mem_take_iff.mp member
  have inBounds := (List.getElem?_eq_some_iff.mp otherLocated).1
  have same := (List.getElem?_inj inBounds nodup).mp (otherLocated.trans located.symm)
  omega

/-- All new material of a document stands before a cut exactly if what stands behind it is
old. -/
theorem newMaterial_subset_take_iff
    {arranged : List Jwk}
    {count : Nat}
    (nodup : arranged.Nodup)
    (perm : arranged.Perm usable) :
    (∀ k ∈ newMaterial old usable, k ∈ arranged.take count) ↔
      ∀ position k, count ≤ position → arranged[position]? = some k →
        holdsMaterial old k = true := by
  constructor
  · intro retained position k behind located
    by_contra isNew
    have member : k ∈ usable := perm.subset (List.mem_of_getElem? located)
    have kept := retained k (mem_newcomers.mpr ⟨member, Bool.eq_false_iff.mpr isNew⟩)
    exact notMem_take_of_getElem? nodup located behind kept
  · intro behindOld k member
    obtain ⟨inDocument, isNew⟩ := mem_newcomers.mp member
    obtain ⟨position, located⟩ := List.mem_iff_getElem?.mp (perm.symm.subset inDocument)
    refine mem_take_iff.mpr ⟨position, ?_, located⟩
    by_contra behind
    have held := behindOld position k (Nat.le_of_not_lt behind) located
    rw [holdsMaterial_eq, isNew] at held
    cases held

/-- Behind the cap stands what stood there before the exchange, or the key that was in
front. -/
theorem newKeysInFront_iff_swapFront
    {verifies : Jwk → Bool}
    {index : Nat}
    (first : usable.findIdx? verifies = some index) :
    NewKeysInFront old usable verifies ↔
      ∀ position k, kMaxKeysPerKid ≤ position →
        (swapFront usable index)[position]? = some k → holdsMaterial old k = true := by
  have inBounds : index < usable.length := by
    have found := List.findIdx?_eq_some_iff_findIdx_eq.mp first
    exact found.1
  have exchanged := getElem?_swapFront inBounds
  have front : usable.head? = usable[0]? := List.head?_eq_getElem?
  have notFront : ∀ position, kMaxKeysPerKid ≤ position → position ≠ 0 := by
    rintro position behind rfl
    exact absurd behind (by decide)
  constructor
  · intro inFront position k behind located
    obtain ⟨others, replaced⟩ := inFront index first
    rw [exchanged, if_neg (notFront position behind)] at located
    split at located
    · next atIndex =>
        rw [atIndex] at behind
        exact replaced behind k (front.trans located)
    · next notIndex => exact others position k located behind notIndex
  · intro behindOld other otherFirst
    cases first.symm.trans otherFirst
    constructor
    · intro position k located behind notIndex
      apply behindOld position k behind
      rw [exchanged, if_neg notIndex, if_neg (notFront position behind)]
      exact located
    · intro behind k located
      apply behindOld index k behind
      rw [exchanged, if_pos rfl, ← front]
      exact located

/-- With a verifying key exchanged to the front, all new material is kept if there is none
behind the cap. -/
theorem retainsNew_swapFront_iff
    {verifies : Jwk → Bool}
    {index : Nat}
    (nodup : usable.Nodup)
    (first : usable.findIdx? verifies = some index) :
    RetainsNew old usable ((swapFront usable index).take kMaxKeysPerKid) ↔
      kMaxKeysPerKid < (newMaterial old usable).length ∨
        NewKeysInFront old usable verifies := by
  have perm := swapFront_perm usable index
  unfold RetainsNew
  rw [newMaterial_subset_take_iff (perm.nodup_iff.mpr nodup) perm,
    ← newKeysInFront_iff_swapFront first, ← Nat.not_le, imp_iff_not_or]

/-! ## What a refresh retains -/

/-- The usable keys of a document for the kid of a call. -/
theorem committedKeys_eq
    {keys : List Jwk}
    {reservationId : Nat}
    {cache : JwksCache}
    {committed : List Jwk}
    (commits : committedKeys backend parked reservationId (groupSigningKeysByKid keys)
      cache = some committed) :
    committed = (commitCandidates backend parked (listedKeys keys parked.parsed.kid)
      (cache.lookup parked.parsed.kid parked.call.opts.nowS parked.call.jwksUri).keys).1 := by
  unfold committedKeys at commits
  dsimp only at commits
  split at commits
  · cases commits
  · next group grouped =>
      obtain ⟨rfl, -⟩ := lookup_groupSigningKeysByKid_eq_some.mp grouped
      split at commits
      · cases commits
      · split at commits
        · exact (Option.some.inj commits).symm
        · cases commits

/-- Which of the candidates are new decides whether the cap keeps all that are. -/
theorem retainsNew_commitCandidates_iff (group old : List Jwk) :
    RetainsNew old (screenUsableKeys backend group)
        ((commitCandidates backend parked group old).1.take kMaxKeysPerKid) ↔
      kMaxKeysPerKid < (newMaterial old (screenUsableKeys backend group)).length ∨
        NewKeysInFront old (screenUsableKeys backend group)
          (verifiesToken backend parked) := by
  have nodup : (screenUsableKeys backend group).Nodup :=
    nodup_of_distinctMaterial (distinctMaterial_screenUsableKeys group)
      fun k member => (mem_of_mem_screenUsableKeys member).2
  generalize usable_eq : screenUsableKeys backend group = usable at nodup
  unfold commitCandidates prioritizeMatchingKey
  dsimp only
  rw [usable_eq]
  by_cases single : usable.length ≤ 1
  · -- A single key is not tried, and always fits.
    have retains := retainsNew_prioritizeNewKeys old usable
    rw [if_pos single]
    simp only [Option.isNone_none, if_true]
    refine iff_of_true retains (.inr ?_)
    intro index first
    have inBounds := (List.findIdx?_eq_some_iff_findIdx_eq.mp first).1
    constructor
    · intro position k located behind
      have := (List.getElem?_eq_some_iff.mp located).1
      exact absurd behind (by rw [kMaxKeysPerKid]; omega)
    · intro behind
      exact absurd behind (by rw [kMaxKeysPerKid]; omega)
  · rw [if_neg single, firstVerified_eq]
    cases first : usable.findIdx? (verifiesToken backend parked) with
    | none =>
        simp only [Option.bind_none, Option.isNone_none, if_true]
        refine iff_of_true (retainsNew_prioritizeNewKeys old usable) (.inr ?_)
        intro index impossible
        cases first.symm.trans impossible
    | some index =>
        have inBounds := (List.findIdx?_eq_some_iff_findIdx_eq.mp first).1
        simp only [Option.bind_some, List.getElem?_eq_getElem inBounds, Option.map_some,
          Option.isNone_some, Bool.false_eq_true, if_false, Nat.zero_add]
        exact retainsNew_swapFront_iff nodup first

/-- Whichever token triggers a refresh, and whichever candidate verifies it: a committed
refresh retains all new material of its document, four keys at most, exactly if none of it
stands behind the cap once the first key that verifies has changed places with the first
of all. -/
theorem refresh_retainsNew_iff
    (reservationId : Nat)
    {response : Option Response}
    {cache : JwksCache}
    {keys : List Jwk}
    {hit : Entry}
    (read : readResponse backend response = .keys keys)
    (found : cache.findHit parked.call.jwksUri parked.parsed.kid = some hit)
    (commits : (refreshCommits backend parked reservationId response cache).isSome = true) :
    (∃ entry, (cacheAfterCommit backend parked reservationId response cache).findHit
        parked.call.jwksUri parked.parsed.kid = some entry ∧
      RetainsNew hit.keys (usableKeys backend keys parked.parsed.kid) entry.keys) ↔
      kMaxKeysPerKid <
          (newMaterial hit.keys (usableKeys backend keys parked.parsed.kid)).length ∨
        NewKeysInFront hit.keys (usableKeys backend keys parked.parsed.kid)
          (verifiesToken backend parked) := by
  obtain ⟨committed, commits⟩ := Option.isSome_iff_exists.mp commits
  rw [refreshCommits, read] at commits
  have live : ((cache.recordJwksFetchSuccess parked.call.opts.nowS
      parked.call.jwksUri).lookup parked.parsed.kid parked.call.opts.nowS
      parked.call.jwksUri).keys = hit.keys := by
    unfold JwksCache.lookup JwksCache.findHit at *
    rw [JwksCache.hits_recordJwksFetchSuccess, found]
  have attempt := commitTargetKid_spec parked reservationId read
    (cache.recordJwksFetchSuccess parked.call.opts.nowS parked.call.jwksUri)
  obtain ⟨-, -, -, ⟨entry, stored, keys_eq, -⟩⟩ := attempt.commits committed commits
  have committed_eq := committedKeys_eq commits
  rw [live] at committed_eq
  rw [trimToCap_eq_take, committed_eq] at keys_eq
  rw [cacheAfterCommit, read]
  dsimp only
  rw [stored]
  simp only [Option.some.injEq, exists_eq_left', keys_eq]
  exact retainsNew_commitCandidates_iff _ _

/-! ## An issuer with many keys -/

/-- The issuer's documents: four keys under one kid, and the same with one or two new
keys behind them. -/
def rotatedDocuments : List (String × List Json) :=
  [("four", ["AQ", "Ag", "Aw", "BA"].map (sampleKey "a")),
    ("five", ["AQ", "Ag", "Aw", "BA", "BQ"].map (sampleKey "a")),
    ("six", ["AQ", "Ag", "Aw", "BA", "BQ", "Bg"].map (sampleKey "a"))]

/-- The tokens, and the PEM form of the key that signed each. -/
def rotatedTokens : List (String × String) :=
  [("by-1", "1"), ("by-5", "5"), ("by-6", "6")]

/-- Libraries that know these tokens and documents. -/
def rotatedBackend : Backend where
  decode token := (rotatedTokens.lookup token).map fun _ =>
    { algorithm := .value "EdDSA", keyId := .value "a" }
  parseJson body := (rotatedDocuments.lookup body).map fun keys =>
    .object [("keys", .array keys)]
  rsaFromData _ _ := none
  ecFromData _ _ := none
  rawPublicKey _ bytes := some {
    bits := 256
    pem := some (String.ofList (bytes.map fun byte => Char.ofNat (48 + byte.toNat))) }
  verify config token :=
    if rotatedTokens.lookup token = some config.pem then .ok else .signatureError

/-- The first four keys are cached, and a refresh for a token of the fifth is reserved. -/
def rotatedCache : JwksCache :=
  ((validateToken rotatedBackend (fun _ cache => (sampleResponse "four", cache)) .stored
    (sampleCall "by-1" 1000) (JwksCache.create 300 1000)).cache.tryReserveRefresh "a" 1400
      "https://idp.test/jwks").2

/-- The call for this token. -/
def rotatedParked : Parked where
  call := sampleCall "by-5" 1400
  parsed := { alg := "EdDSA", kid := "a" }
  route := .refresh 1 .invalidSignature

/-- The fifth key takes the place of the first, and the sixth is cut off with it. -/
theorem refresh_loses_new :
    ∃ hit, rotatedCache.findHit "https://idp.test/jwks" "a" = some hit ∧
      (refreshCommits rotatedBackend rotatedParked 1 (sampleResponse "six")
        rotatedCache).isSome = true ∧
      ¬∃ entry, (cacheAfterCommit rotatedBackend rotatedParked 1 (sampleResponse "six")
          rotatedCache).findHit "https://idp.test/jwks" "a" = some entry ∧
        RetainsNew hit.keys
          (usableKeys rotatedBackend (parseJwksJson rotatedBackend "six") "a")
          entry.keys := by
  refine ⟨_, rfl, by decide, ?_⟩
  rintro ⟨entry, stored, retains⟩
  cases stored
  have kept := retains (by decide)
    { kid := "a", kty := "OKP", crv := "Ed25519", x := "Bg" } (by decide)
  revert kept
  decide

/-- A single new key is retained. -/
theorem refresh_retainsNew_sample :
    ∃ entry, (cacheAfterCommit rotatedBackend rotatedParked 1 (sampleResponse "five")
        rotatedCache).findHit "https://idp.test/jwks" "a" = some entry ∧
      RetainsNew
        (usableKeys rotatedBackend (parseJwksJson rotatedBackend "four") "a")
        (usableKeys rotatedBackend (parseJwksJson rotatedBackend "five") "a")
        entry.keys := by
  have five : (usableKeys rotatedBackend (parseJwksJson rotatedBackend "five") "a").length =
      5 := by decide
  have first : (usableKeys rotatedBackend (parseJwksJson rotatedBackend "five") "a").findIdx?
      (verifiesToken rotatedBackend rotatedParked) = some 4 := by decide
  have stored : rotatedCache.findHit rotatedParked.call.jwksUri rotatedParked.parsed.kid =
      some {
        keys := usableKeys rotatedBackend (parseJwksJson rotatedBackend "four") "a"
        fetchedAtS := 1000
        lastRefreshAttemptS := 1400
        currentReservationId := 1
        lruIt := 0 } := rfl
  have read : readResponse rotatedBackend (sampleResponse "five") =
      .keys (parseJwksJson rotatedBackend "five") := rfl
  refine (refresh_retainsNew_iff 1 read stored (by decide)).mpr (.inr ?_)
  intro index found
  cases first.symm.trans found
  constructor
  · intro position k located behind notIndex
    have inBounds : position < (usableKeys rotatedBackend
        (parseJwksJson rotatedBackend "five") "a").length :=
      (List.getElem?_eq_some_iff.mp located).1
    have limit : kMaxKeysPerKid = 4 := rfl
    omega
  · intro _ k located
    have front : k = { kid := "a", kty := "OKP", crv := "Ed25519", x := "AQ" } := by
      have head : (usableKeys rotatedBackend (parseJwksJson rotatedBackend "five") "a").head? =
          some { kid := "a", kty := "OKP", crv := "Ed25519", x := "AQ" } := by decide
      exact Option.some.inj (located.symm.trans head)
    rw [front]
    decide

end Validator
end QuackOauth
